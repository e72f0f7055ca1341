/-!
Words: the natural numbers that fit into 64 bits.
-/
namespace LineLayout

def wordLimit : Nat := 0x10000000000000000

def word? (value : Nat) : Option Nat := if value < wordLimit then some value else none

end LineLayout
