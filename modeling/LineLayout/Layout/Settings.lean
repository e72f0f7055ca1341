/-!
What a layout depends on besides its document.
-/
namespace LineLayout

def standardTabWidth : Nat := 4

structure Settings where
  width : Nat := 80
  tabWidth : Nat := standardTabWidth
  deriving DecidableEq, Repr

end LineLayout
