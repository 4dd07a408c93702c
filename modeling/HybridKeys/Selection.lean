/-
Module: HybridKeys.Selection
Purpose: The set of key parts that an operation is about.
Main exports: Selection, ofBits, bits, union, inter, contains, intersects, dump
-/

namespace HybridKeys

/-!
A host names key parts by the bits of one byte.  Four bits have a meaning; the others are dropped on
entry, so a selection is exactly four answers.
-/

/-- Which parts of a key are meant. -/
structure Selection where
  privateKey : Bool := false
  publicKey : Bool := false
  domainParameters : Bool := false
  otherParameters : Bool := false
deriving DecidableEq, Repr, Inhabited

namespace Selection

/-- The selection that the bits of a byte name; bits without a meaning are dropped. -/
def ofBits (byte : UInt8) : Selection where
  privateKey := byte &&& 0x01 != 0
  publicKey := byte &&& 0x02 != 0
  domainParameters := byte &&& 0x04 != 0
  otherParameters := byte &&& 0x80 != 0

def bits (s : Selection) : UInt8 :=
  (if s.privateKey then 0x01 else 0) ||| (if s.publicKey then 0x02 else 0) |||
    (if s.domainParameters then 0x04 else 0) ||| (if s.otherParameters then 0x80 else 0)

def empty : Selection := {}

def privateHalf : Selection := { privateKey := true }

def publicHalf : Selection := { publicKey := true }

def domain : Selection := { domainParameters := true }

def other : Selection := { otherParameters := true }

/-- The parts that are in either selection. -/
def union (s t : Selection) : Selection where
  privateKey := s.privateKey || t.privateKey
  publicKey := s.publicKey || t.publicKey
  domainParameters := s.domainParameters || t.domainParameters
  otherParameters := s.otherParameters || t.otherParameters

/-- The parts that are in both selections. -/
def inter (s t : Selection) : Selection where
  privateKey := s.privateKey && t.privateKey
  publicKey := s.publicKey && t.publicKey
  domainParameters := s.domainParameters && t.domainParameters
  otherParameters := s.otherParameters && t.otherParameters

instance : Union Selection := ⟨union⟩

instance : Inter Selection := ⟨inter⟩

def keyPair : Selection := privateHalf ∪ publicHalf

def allParameters : Selection := domain ∪ other

def everything : Selection := keyPair ∪ allParameters

def isEmpty (s : Selection) : Bool :=
  s == empty

/-- Whether every part of the second selection is in the first. -/
def contains (s t : Selection) : Bool :=
  s ∩ t == t

/-- Whether the selections share a part. -/
def intersects (s t : Selection) : Bool :=
  !(s ∩ t).isEmpty

/-- Whether a half of the key pair is selected. -/
def namesKeyPart (s : Selection) : Bool :=
  s.intersects keyPair

/-- The names of the selected parts, in the order of their bits. -/
def names (s : Selection) : List String :=
  (if s.privateKey then ["PRIVATE_KEY"] else []) ++
    (if s.publicKey then ["PUBLIC_KEY"] else []) ++
    (if s.domainParameters then ["DOMAIN_PARAMETERS"] else []) ++
    (if s.otherParameters then ["OTHER_PARAMETERS"] else [])

def dump (s : Selection) : String :=
  if s.isEmpty then "Selection(empty)"
  else "Selection(" ++ " | ".intercalate s.names ++ ")"

/-- A selection is read back from its bits. -/
@[simp] theorem ofBits_bits (s : Selection) : ofBits s.bits = s := by
  rcases s with ⟨_ | _, _ | _, _ | _, _ | _⟩ <;> rfl

/-- A key part is named exactly when one of the two halves is. -/
@[simp] theorem namesKeyPart_eq (s : Selection) :
    s.namesKeyPart = (s.privateKey || s.publicKey) := by
  rcases s with ⟨_ | _, _ | _, _ | _, _ | _⟩ <;> rfl

end Selection

end HybridKeys
