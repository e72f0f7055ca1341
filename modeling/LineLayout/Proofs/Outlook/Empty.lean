import Mathlib.Control.Monad.Basic
import LineLayout.Proofs.Doc.Empty
import LineLayout.Proofs.Outlook.Laws
import LineLayout.Proofs.Reach.Display
/-!
Empty documents in a display: they show nothing and change nothing around them. All that can come of
them is a fault, when their indentation overflows.
-/
namespace LineLayout

open Outlook (AlikeUnless)

variable {settings : Settings} {α : Type}

theorem sameUnless_overflow {τ : Type} {answer expected : Except Fault τ} :
    SameUnless (· = .overflow) answer expected ↔
      answer = expected ∨ answer = .error .overflow := by
  simp [SameUnless]

theorem Outlook.stopped_alikeUnless {excuse : Fault → Prop} {fault : Fault}
    (excused : excuse fault) (rest : Outlook settings α) :
    AlikeUnless excuse (stopped fault) rest where
  fits column := by
    by_cases tooWide : settings.width < column
    · left
      rw [rest.fits_of_tooWide column tooWide]
      exact if_pos tooWide
    · exact .inr ⟨fault, excused, if_neg tooWide⟩
  shown _ := .inr ⟨fault, excused, rfl⟩

namespace Doc

variable {d : Doc α}

theorem before_of_isEmpty (nothing : d.isEmpty = true) (indentation : Nat)
    (rest : Outlook settings α) :
    AlikeUnless (· = .overflow) (d.before indentation rest) rest := by
  induction d generalizing indentation rest with
  | empty => exact .refl rest
  | text | newline => simp at nothing
  | concat left right ihLeft ihRight =>
    simp only [isEmpty_concat, Bool.and_eq_true] at nothing
    have first : AlikeUnless (· = .overflow) ((concat left right).before indentation rest)
        (right.before indentation rest) :=
      ihLeft nothing.1 indentation (right.before indentation rest)
    exact first.trans (ihRight nothing.2 indentation rest)
  | indent body ih =>
    rw [isEmpty_indent] at nothing
    simp only [before]
    cases sum : addColumns indentation settings.tabWidth with
    | ok deeper => exact ih nothing deeper rest
    | error fault =>
      apply Outlook.stopped_alikeUnless
      exact eq_overflow_of_addColumns sum
  | hang body ih =>
    rw [isEmpty_hang] at nothing
    have inside : ∀ column, AlikeUnless (· = .overflow) (body.before column rest) rest :=
      fun column => ih nothing column rest
    exact ⟨fun column => (inside column).fits column, fun column => (inside column).shown column⟩
  | choice wide narrow ihWide ihNarrow =>
    simp only [isEmpty_choice, Bool.and_eq_true] at nothing
    -- Each option leaves the rest as it is, and a choice between equals is none.
    have both : AlikeUnless (· = .overflow) ((choice wide narrow).before indentation rest)
        (rest.choice rest) :=
      .choice (ihWide nothing.1 indentation rest) (ihNarrow nothing.2 indentation rest)
    exact both.trans (Outlook.choice_self rest).unless

theorem render_empty (settings : Settings) : (empty : Doc α).render settings = .ok [] := by
  rw [render_eq_outlook]
  rfl

/-- Whether a document shows what another one does, unless it overflows; if it takes fewer columns
than a text can have, both are shown in full. -/
def ShowsAs (settings : Settings) (d d' : Doc α) : Prop :=
  (d.render settings = d'.render settings ∨ d.render settings = .error .overflow) ∧
  (d.extent settings.tabWidth < longestText →
    ∃ fragments, d.render settings = .ok fragments ∧ d'.render settings = .ok fragments)

theorem showsAs_of_sameUnless {d d' : Doc α}
    (same : SameUnless (· = .overflow) (d.render settings) (d'.render settings)) :
    ShowsAs settings d d' := by
  rw [sameUnless_overflow] at same
  refine ⟨same, ?_⟩
  intro short
  obtain ⟨fragments, complete⟩ := Printer.exists_render short
  rw [complete] at same
  rcases same with same | overflow
  · exact ⟨fragments, complete, same.symm⟩
  · cases overflow

/-- A document is empty exactly if no resolution of its choices displays anything. It then shows
nothing at any width, it may stand before or after a document in any context without changing what
is shown, and flattened it is still empty. All that can come of it is an overflow. -/
theorem isEmpty_shows_nothing (d : Doc α) :
    (∀ tabWidth indentation column, d.isEmpty = true ↔ ∀ decisions resolved later,
      d.resolve decisions = some (resolved, later) →
        (resolved.place tabWidth indentation column).1 = []) ∧
    (d.isEmpty = true →
      (∀ settings, (d.render settings = .ok [] ∨ d.render settings = .error .overflow) ∧
        (d.extent settings.tabWidth < longestText → d.render settings = .ok [])) ∧
      (∀ settings (context : Context α) a,
        ShowsAs settings (context.fill (concat d a)) (context.fill a) ∧
        ShowsAs settings (context.fill (concat a d)) (context.fill a)) ∧
      ∀ sharing, (d.flattenUpTo sharing).isEmpty = true) := by
  refine ⟨fun _ _ _ => isEmpty_iff_places_nothing .., ?_⟩
  intro nothing
  refine ⟨?alone, ?around, ?flat⟩
  case alone =>
    intro settings
    have shows : ShowsAs settings d empty :=
      showsAs_of_sameUnless (render_fill_sameUnless settings .hole (before_of_isEmpty nothing))
    rw [ShowsAs, render_empty] at shows
    refine ⟨shows.1, ?_⟩
    intro short
    obtain ⟨fragments, complete, none⟩ := shows.2 short
    exact complete.trans none.symm
  case around =>
    intro settings context a
    constructor
    · apply showsAs_of_sameUnless
      apply render_fill_sameUnless settings context
      intro indentation rest
      exact before_of_isEmpty nothing indentation (a.before indentation rest)
    · apply showsAs_of_sameUnless
      apply render_fill_sameUnless settings context
      intro indentation rest
      exact .before a indentation (before_of_isEmpty nothing indentation rest)
  case flat =>
    intro sharing
    rw [flattenUpTo_eq_flat]
    exact isEmpty_flat nothing

def nestedEmpties : Doc Unit :=
  indent (choice (concat empty (hang empty)) (choice empty empty))

theorem nestedEmpties_before_break :
    nestedEmpties.isEmpty = true ∧
    (concat (text "ab" none) (concat nestedEmpties line)).render ⟨2, 4⟩ =
      .ok [.text "ab" none, .newline 0] := by
  have nothing : nestedEmpties.isEmpty = true := by simp [nestedEmpties]
  have around := ((isEmpty_shows_nothing nestedEmpties).2 nothing).2.1 ⟨2, 4⟩
    (.concatRight (text "ab" none) .hole) line
  have without : (concat (text "ab" none) (line : Doc Unit)).render ⟨2, 4⟩ =
      .ok [.text "ab" none, .newline 0] := by
    decide +kernel
  refine ⟨nothing, ?_⟩
  obtain ⟨fragments, complete, same⟩ := around.1.2 (by decide)
  calc
    (concat (text "ab" none) (concat nestedEmpties line)).render ⟨2, 4⟩ = .ok fragments := complete
    _ = (concat (text "ab" none) (line : Doc Unit)).render ⟨2, 4⟩ := same.symm
    _ = .ok [.text "ab" none, .newline 0] := without

end Doc

end LineLayout
