import CloudSpace.Record.Document
import CloudSpace.Sha256

/-!
# Fingerprints

A digest by which a desired state is recognised from one run to the next. What is hashed of a
space is a list of bytes, made from the digests of its records; neither the order nor the
repetition of developers changes it, and the order of a service's tags does not either.
-/
namespace CloudSpace

open Text (utf8)

def Application.fingerprint (app : Application) : String :=
  Sha256.fingerprint (utf8 app.toYaml)

/-- A text and the byte that ends it. -/
def endedText (text : String) : List UInt8 := utf8 text ++ [0]

/-- What is hashed of a service: offering, plan, sorted tags, and parameters by name. -/
def Service.fingerprintBytes (service : Service) : List UInt8 :=
  endedText service.offering ++ endedText service.plan ++
  (service.tags.mergeSort (fun first second => first ≤ second)).flatMap endedText ++
  service.params.entries.flatMap fun entry => utf8 entry.1 ++ utf8 "=" ++ endedText entry.2

def Service.fingerprint (service : Service) : String :=
  Sha256.fingerprint service.fingerprintBytes

/-- What is hashed of a space: each name with the digest of its record, and the developers. -/
def Space.fingerprintBytes (space : Space) : List UInt8 :=
  space.applications.entries.flatMap (fun entry => utf8 entry.1 ++ utf8 entry.2.fingerprint) ++
  space.services.entries.flatMap (fun entry => utf8 entry.1 ++ utf8 entry.2.fingerprint) ++
  (distinctSorted space.developers).flatMap endedText

def Space.fingerprint (space : Space) : String :=
  Sha256.fingerprint space.fingerprintBytes

/-- The first eight characters, which are shown to people. -/
def shortFingerprint (fingerprint : String) : String :=
  String.ofList (fingerprint.toList.take 8)

end CloudSpace
