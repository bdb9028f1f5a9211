import ColdBuild.Text.Utf8

/-!
# Octets as characters

Inside a machine a text is a sequence of octets, each of which is written as the character with
its code. So programs can count, cut and compare octets with the functions on strings, and a text
in any encoding is kept as it is. Texts are encoded when they enter the machine and decoded when
they leave it.
-/

namespace ColdBuild.Octets

/-- The octets of a text. -/
def ofText (text : String) : String :=
  String.ofList ((Utf8.encode text).map fun octet => Char.ofNat octet.toNat)

def bytes (octets : String) : List UInt8 := octets.toList.map fun c => UInt8.ofNat c.toNat

def ofBytes (bytes : List UInt8) : String :=
  String.ofList (bytes.map fun octet => Char.ofNat octet.toNat)

/-- The text that octets encode; ill-formed parts are replaced. -/
def toText (octets : String) : String := Utf8.decode (bytes octets)

end ColdBuild.Octets
