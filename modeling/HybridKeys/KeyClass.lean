/-
Module: HybridKeys.KeyClass
Purpose: The classes of keys and the families of the primitives behind them.
Main exports: Family, KeyClass, isHybrid, isKem, family, label, dump
-/

namespace HybridKeys

/-- What a post-quantum primitive does. -/
inductive Family where
  | kem
  | signature
deriving DecidableEq, Repr, Inhabited

def Family.dump : Family → String
  | .kem => "Kem"
  | .signature => "Signature"

/-- The class of a key decides the family of its primitive and whether a classical key goes with it. -/
inductive KeyClass where
  /-- A post-quantum signature key. -/
  | signature
  /-- A post-quantum key-encapsulation key. -/
  | kem
  /-- A key-encapsulation key paired with a key on a prime curve. -/
  | ecpHybridKem
  /-- A key-encapsulation key paired with a key on a Montgomery curve. -/
  | ecxHybridKem
deriving DecidableEq, Repr, Inhabited

namespace KeyClass

/-- Whether keys of the class carry a classical key. -/
def isHybrid : KeyClass → Bool
  | .ecpHybridKem | .ecxHybridKem => true
  | .signature | .kem => false

/-- Whether keys of the class encapsulate, hybrid or not. -/
def isKem : KeyClass → Bool
  | .signature => false
  | .kem | .ecpHybridKem | .ecxHybridKem => true

/-- The family that the class asks of a primitive. -/
def family (c : KeyClass) : Family :=
  if c.isKem then .kem else .signature

/-- The name of a class in messages. -/
def label : KeyClass → String
  | .signature => "signature"
  | .kem => "kem"
  | .ecpHybridKem => "ecp-hybrid-kem"
  | .ecxHybridKem => "ecx-hybrid-kem"

/-- The class that a name means, if it means one. -/
def ofLabel? : String → Option KeyClass
  | "signature" => some .signature
  | "kem" => some .kem
  | "ecp-hybrid-kem" => some .ecpHybridKem
  | "ecx-hybrid-kem" => some .ecxHybridKem
  | _ => none

def dump : KeyClass → String
  | .signature => "Sig"
  | .kem => "Kem"
  | .ecpHybridKem => "EcpHybridKem"
  | .ecxHybridKem => "EcxHybridKem"

end KeyClass

end HybridKeys
