/-
Module: HybridKeys.Parameter.Name
Purpose: The names of the parameters that keys and generations know.
Main exports: ParameterName.bits … ParameterName.group
-/

namespace HybridKeys.ParameterName

/-- The strength of a key in bits. -/
def bits : String := "bits"

/-- The security of a key in bits of a classical one. -/
def securityBits : String := "security-bits"

/-- The size of the largest output of a key. -/
def maxSize : String := "max-size"

/-- The public key in its wire encoding. -/
def encodedPublicKey : String := "encoded-pub-key"

def publicKey : String := "pub"

def privateKey : String := "priv"

def properties : String := "properties"

def group : String := "group"

end HybridKeys.ParameterName
