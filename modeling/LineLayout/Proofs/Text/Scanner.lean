import LineLayout.Text.Scanner
/-!
Reading a text from a state on, and texts that a scanner cuts into the tokens they were written from.
-/
namespace LineLayout.Text.Scanner

variable {σ τ : Type} {scanner : Scanner σ τ}

@[simp]
theorem tokensFrom?_nil (state : σ) : scanner.tokensFrom? state [] = scanner.finish state := rfl

theorem tokensFrom?_of_silent {state next : σ} {c : Char}
    (moves : scanner.step state c = some ([], next)) (later : List Char) :
    scanner.tokensFrom? state (c :: later) = scanner.tokensFrom? next later := by
  simp [tokensFrom?, moves]

theorem tokensFrom?_of_completes {state next : σ} {c : Char} {token : τ}
    (completes : scanner.step state c = some ([token], next)) (later : List Char) :
    scanner.tokensFrom? state (c :: later) =
      (scanner.tokensFrom? next later).map (token :: ·) := by
  simp only [tokensFrom?, completes, Option.bind_eq_bind, Option.bind_some]
  cases scanner.tokensFrom? next later <;> rfl

theorem tokensFrom?_collect {collected : List Char → σ} {chars : List Char}
    (collects : ∀ c ∈ chars, ∀ before,
      scanner.step (collected before) c = some ([], collected (c :: before)))
    (before later : List Char) :
    scanner.tokensFrom? (collected before) (chars ++ later) =
      scanner.tokensFrom? (collected (chars.reverse ++ before)) later := by
  induction chars generalizing before with
  | nil => rfl
  | cons c chars ih =>
    have step := collects c List.mem_cons_self before
    have rest := ih fun other member => collects other (List.mem_cons_of_mem c member)
    rw [List.cons_append, tokensFrom?_of_silent step, rest, List.reverse_cons, List.append_assoc,
      List.singleton_append]

theorem tokensFrom?_of_ends {state rest : σ} {token : τ} {later : List Char}
    (ends : scanner.finish state = some [token]) (restEnds : scanner.finish rest = some [])
    (leads : ∀ c, later.head? = some c → scanner.step state c =
      (scanner.step rest c).map fun (tokens, next) => (token :: tokens, next)) :
    scanner.tokensFrom? state later = (scanner.tokensFrom? rest later).map (token :: ·) := by
  cases later with
  | nil =>
    rw [tokensFrom?_nil, tokensFrom?_nil, ends, restEnds]
    rfl
  | cons c others =>
    simp only [tokensFrom?, leads c rfl, Option.bind_eq_bind]
    cases scanner.step rest c with
    | none => rfl
    | some reached =>
      simp only [Option.map_some, Option.bind_some]
      cases scanner.tokensFrom? reached.2 others <;> rfl

theorem foldlM_advance (scanner : Scanner σ τ) (chars : List Char) (found : List τ) (state : σ) :
    ((chars.foldlM scanner.advance (found, state)).bind fun reached =>
        (scanner.finish reached.2).map (reached.1.reverse ++ ·)) =
      (scanner.tokensFrom? state chars).map (found.reverse ++ ·) := by
  induction chars generalizing found state with
  | nil => rfl
  | cons c later ih =>
    rw [List.foldlM_cons, tokensFrom?, advance]
    cases moved : scanner.step state c with
    | none => rfl
    | some reached =>
      obtain ⟨completed, next⟩ := reached
      have rest := ih (completed.reverse ++ found) next
      simp only [Option.map_some, Option.bind_eq_bind, Option.bind_some]
      rw [rest]
      cases scanner.tokensFrom? next later <;> simp

theorem tokens?_eq_tokensFrom? (chars : List Char) :
    scanner.tokens? chars = scanner.tokensFrom? scanner.start chars := by
  have run := foldlM_advance scanner chars [] scanner.start
  simp only [List.reverse_nil, List.nil_append, Option.map_id_fun', id_eq] at run
  rw [← run, tokens?]
  cases chars.foldlM scanner.advance ([], scanner.start) with
  | none => rfl
  | some reached => cases ended : scanner.finish reached.2 <;> simp [ended]

/-- The text that is written for the tokens is cut into them again. -/
def Recovers (scanner : Scanner σ τ) (write : τ → List Char) (tokens : List τ) : Prop :=
  scanner.tokens? (tokens.flatMap write) = some tokens

theorem recovers_nil {write : τ → List Char} (ends : scanner.finish scanner.start = some []) :
    scanner.Recovers write [] := by
  rw [Recovers, tokens?_eq_tokensFrom?]
  exact ends

theorem Recovers.cons {write : τ → List Char} {token : τ} {tokens : List τ}
    (recovers : scanner.Recovers write tokens)
    (reads : scanner.tokensFrom? scanner.start (write token ++ tokens.flatMap write) =
      (scanner.tokensFrom? scanner.start (tokens.flatMap write)).map (token :: ·)) :
    scanner.Recovers write (token :: tokens) := by
  rw [Recovers, tokens?_eq_tokensFrom?] at recovers ⊢
  rw [recovers] at reads
  exact reads

end LineLayout.Text.Scanner
