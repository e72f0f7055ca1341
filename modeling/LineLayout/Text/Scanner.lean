/-!
Scanners: machines that cut a text into tokens, one character at a time.
-/
namespace LineLayout.Text

/-- A machine with states `σ` that finds tokens `τ`. -/
structure Scanner (σ τ : Type) where
  start : σ
  /-- The tokens that a character completes and where it leads; `none` if it cannot come here. -/
  step : σ → Char → Option (List τ × σ)
  /-- The tokens that the end of the text completes; `none` if it cannot end here. -/
  finish : σ → Option (List τ)

namespace Scanner

variable {σ τ : Type}

def advance (scanner : Scanner σ τ) (reached : List τ × σ) (c : Char) : Option (List τ × σ) :=
  (scanner.step reached.2 c).map fun (completed, state) => (completed.reverse ++ reached.1, state)

def tokens? (scanner : Scanner σ τ) (chars : List Char) : Option (List τ) := do
  let (found, state) ← chars.foldlM scanner.advance ([], scanner.start)
  return found.reverse ++ (← scanner.finish state)

def tokensFrom? (scanner : Scanner σ τ) : σ → List Char → Option (List τ)
  | state, [] => scanner.finish state
  | state, c :: later => do
    let (completed, next) ← scanner.step state c
    return completed ++ (← scanner.tokensFrom? next later)

end Scanner

end LineLayout.Text
