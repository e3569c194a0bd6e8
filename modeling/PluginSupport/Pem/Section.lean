import PluginSupport.Pem.Base64
import PluginSupport.Text.Quoted

/-!
# PEM files

A PEM file is a row of sections between BEGIN and END lines, with any other lines around them. Lines
end at a line feed or a carriage return.

* A section opens on a line that starts with `-----BEGIN ` and ends in exactly five dashes; other
  lines with that start are errors. A BEGIN line inside a section renames it and keeps its text.
* It closes on a line that starts with `-----END LABEL-----`; what follows on that line is ignored.
* A section with a label of no interest is dropped unread. One with a known label is decoded.
* A file that ends inside a section ends in an error.

Reading goes on after an error, so a file is a list of sections and errors (`read`).
-/
namespace PluginSupport.Pem

open Utf8 (Bytes)

/-- A decoded section. -/
structure Section where
  label : Bytes
  contents : Bytes
deriving DecidableEq, Repr

/-- Why a part of a PEM file is no section. -/
inductive PemError where
  | missingEnd (label : Bytes)
  | illegalStart (line : Bytes)
  | base64 (error : Base64.DecodeError)
deriving DecidableEq, Repr

/-- Wording of an error. -/
def PemError.message : PemError → String
  | .missingEnd label => "section end " ++ Quoted.write (Utf8.lossy label) ++ " missing"
  | .illegalStart line => "illegal section start: " ++ Quoted.write (Utf8.lossy line)
  | .base64 error => error.name

/-! ## Labels -/

/-- Bytes of an ASCII text. -/
def ascii (text : String) : Bytes :=
  text.toList.map fun c => UInt8.ofNat c.toNat

/-- Label of an X.509 certificate. -/
def certificateLabel : Bytes := ascii "CERTIFICATE"

/-- Label of a private key with its algorithm (PKCS#8). -/
def pkcs8Label : Bytes := ascii "PRIVATE KEY"

/-- Label of an RSA private key (PKCS#1). -/
def pkcs1Label : Bytes := ascii "RSA PRIVATE KEY"

/-- Label of an elliptic curve private key (SEC1). -/
def sec1Label : Bytes := ascii "EC PRIVATE KEY"

/-- Labels whose sections are decoded. -/
def knownLabels : List Bytes :=
  [certificateLabel, ascii "PUBLIC KEY", pkcs1Label, pkcs8Label, sec1Label, ascii "X509 CRL",
    ascii "CERTIFICATE REQUEST", ascii "ECHCONFIG"]

/-! ## Lines -/

/-- Whether a byte ends a line. -/
def isLineEnd (b : UInt8) : Bool := b = 10 ∨ b = 13

/-- Lines of a file, each with the byte that ends it. -/
def lines : Bytes → List Bytes
  | [] => []
  | b :: rest =>
    if isLineEnd b then [b] :: lines rest
    else
      match lines rest with
      | [] => [[b]]
      | line :: more => (b :: line) :: more

/-- The dash. -/
def dash : UInt8 := 45

/-- Start of every line that opens a section. -/
def beginMark : Bytes := ascii "-----BEGIN "

/-- Start of every line that closes a section. -/
def endMark : Bytes := ascii "-----END "

/-- Five dashes. -/
def fiveDashes : Bytes := ascii "-----"

/-- Whether a byte may stand among or after the dashes that end a BEGIN line. -/
def isTail (b : UInt8) : Bool := b = dash ∨ b = 32 ∨ isLineEnd b

/-- Label of a BEGIN line: what stands in front of its last dashes, when these are exactly five. -/
def beginLabel? (line : Bytes) : Option Bytes :=
  let tail := (line.reverse.takeWhile isTail).reverse
  let front := line.take (line.length - tail.length)
  if tail.count dash = 5 then some ((front ++ tail.takeWhile (· ≠ dash)).drop beginMark.length)
  else none

/-- Whether a line closes the section with the given label. -/
def closes (label line : Bytes) : Bool :=
  (endMark ++ label ++ fiveDashes).isPrefixOf line

/-! ## Sections -/

/-- A section that has been opened and not yet closed. -/
structure OpenSection where
  label : Bytes
  body : Bytes
deriving DecidableEq, Repr

/-- Section made of an open one at its END line; none for labels of no interest. -/
def OpenSection.close (s : OpenSection) : Option (Except PemError Section) :=
  if s.label ∈ knownLabels then
    some (match Base64.decode s.body with
      | .ok contents => .ok ⟨s.label, contents⟩
      | .error error => .error (.base64 error))
  else none

/-- Sections and errors of the remaining lines. -/
def readLines : Option OpenSection → List Bytes → List (Except PemError Section)
  | none, [] => []
  | some s, [] => [.error (.missingEnd s.label)]
  | state, line :: rest =>
    if beginMark.isPrefixOf line then
      match beginLabel? line with
      | none => .error (.illegalStart line) :: readLines none rest
      | some label => readLines (some ⟨label, (state.map OpenSection.body).getD []⟩) rest
    else
      match state with
      | none => readLines none rest
      | some s =>
        if closes s.label line then s.close.toList ++ readLines none rest
        else readLines (some ⟨s.label, s.body ++ line⟩) rest

/-- Sections and errors of a file, in order. -/
def read (file : Bytes) : List (Except PemError Section) :=
  readLines none (lines file)

/-! ## Contents of interest -/

/-- Contents of the certificate sections, in file order; broken sections are left out. -/
def certificates (file : Bytes) : List Bytes :=
  (read file).filterMap fun
    | .ok s => if s.label = certificateLabel then some s.contents else none
    | .error _ => none

/-- Encoding of a private key, as its label says. -/
inductive KeyFormat where
  | pkcs1
  | sec1
  | pkcs8
deriving DecidableEq, Repr

/-- A private key as a file holds it. -/
structure KeyFile where
  format : KeyFormat
  der : Bytes
deriving DecidableEq, Repr

/-- Format of the private keys under a label. -/
def keyFormat? (label : Bytes) : Option KeyFormat :=
  if label = pkcs1Label then some .pkcs1
  else if label = sec1Label then some .sec1
  else if label = pkcs8Label then some .pkcs8
  else none

/-- First private key of a row of sections and errors, unless an error comes first. -/
def firstKey : List (Except PemError Section) → Except PemError (Option KeyFile)
  | [] => .ok none
  | .error error :: _ => .error error
  | .ok s :: rest =>
    match keyFormat? s.label with
    | some format => .ok (some ⟨format, s.contents⟩)
    | none => firstKey rest

/-- First private key of a file, unless an error comes first. -/
def privateKey (file : Bytes) : Except PemError (Option KeyFile) :=
  firstKey (read file)

end PluginSupport.Pem
