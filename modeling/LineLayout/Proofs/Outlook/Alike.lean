import LineLayout.Doc.Context
import LineLayout.Proofs.Outlook.Display
/-!
Outlooks on which the display cannot differ but in its decisions. Documents that give such outlooks
before every rest can replace each other in every context. Some faults may be excused: where the
display of the one meets them, it need not be like the display of the other.
-/
namespace LineLayout

open Printer (Event)

variable {settings : Settings} {α : Type} {excuse : Fault → Prop}

/-- Whether an answer is the expected one or a fault that is excused. -/
def SameUnless {τ : Type} (excuse : Fault → Prop) (answer expected : Except Fault τ) : Prop :=
  answer = expected ∨ ∃ fault, excuse fault ∧ answer = .error fault

namespace SameUnless

variable {σ τ : Type}

theorem refl (answer : Except Fault τ) : SameUnless excuse answer answer := .inl rfl

theorem eq {answer expected : Except Fault τ} (same : SameUnless (fun _ => False) answer expected) :
    answer = expected :=
  same.resolve_right fun ⟨_, excused, _⟩ => excused

theorem trans {first second third : Except Fault τ} (same : SameUnless excuse first second)
    (same' : SameUnless excuse second third) : SameUnless excuse first third := by
  rcases same with rfl | excused
  · exact same'
  · exact .inr excused

theorem map {answer expected : Except Fault σ} (f : σ → τ)
    (same : SameUnless excuse answer expected) :
    SameUnless excuse (answer.map f) (expected.map f) := by
  rcases same with rfl | ⟨fault, excused, rfl⟩
  · exact .refl _
  · exact .inr ⟨fault, excused, rfl⟩

theorem bind (answer : Except Fault σ) {next next' : σ → Except Fault τ}
    (same : ∀ value, SameUnless excuse (next value) (next' value)) :
    SameUnless excuse (answer.bind next) (answer.bind next') := by
  cases answer with
  | error fault => exact .refl _
  | ok value => exact same value

end SameUnless

namespace Outlook

structure Alike (first second : Outlook settings α) : Prop where
  fits : ∀ column, first.fits column = second.fits column
  shown : ∀ column,
    (first.events column).map Event.shown = (second.events column).map Event.shown

theorem Alike.refl (outlook : Outlook settings α) : Alike outlook outlook :=
  ⟨fun _ => rfl, fun _ => rfl⟩

theorem Alike.symm {first second : Outlook settings α} (alike : Alike first second) :
    Alike second first :=
  ⟨fun column => (alike.fits column).symm, fun column => (alike.shown column).symm⟩

theorem Alike.trans {first second third : Outlook settings α} (alike : Alike first second)
    (alike' : Alike second third) : Alike first third :=
  ⟨fun column => (alike.fits column).trans (alike'.fits column),
    fun column => (alike.shown column).trans (alike'.shown column)⟩

theorem map_shown_fragment (piece : Fragment α) (observed : Except Fault (List (Event α))) :
    (observed.map (.fragment piece :: ·)).map Event.shown =
      (observed.map Event.shown).map (piece :: ·) := by
  cases observed <;> rfl

theorem map_shown_choice (column : Nat) (isWide : Bool)
    (observed : Except Fault (List (Event α))) :
    (observed.map (.choice column isWide :: ·)).map Event.shown =
      observed.map Event.shown := by
  cases observed <;> rfl

structure AlikeUnless (excuse : Fault → Prop) (first second : Outlook settings α) : Prop where
  fits : ∀ column, SameUnless excuse (first.fits column) (second.fits column)
  shown : ∀ column, SameUnless excuse ((first.events column).map Event.shown)
    ((second.events column).map Event.shown)

theorem Alike.unless {first second : Outlook settings α} (alike : Alike first second) :
    AlikeUnless excuse first second :=
  ⟨fun column => .inl (alike.fits column), fun column => .inl (alike.shown column)⟩

namespace AlikeUnless

theorem refl (outlook : Outlook settings α) : AlikeUnless excuse outlook outlook :=
  (Alike.refl outlook).unless

theorem trans {first second third : Outlook settings α} (alike : AlikeUnless excuse first second)
    (alike' : AlikeUnless excuse second third) : AlikeUnless excuse first third :=
  ⟨fun column => (alike.fits column).trans (alike'.fits column),
    fun column => (alike.shown column).trans (alike'.shown column)⟩

theorem alike {first second : Outlook settings α}
    (alike : AlikeUnless (fun _ => False) first second) : Alike first second :=
  ⟨fun column => (alike.fits column).eq, fun column => (alike.shown column).eq⟩

theorem text (content : String) (label : Option α) {rest rest' : Outlook settings α}
    (alike : AlikeUnless excuse rest rest') :
    AlikeUnless excuse (rest.text content label) (rest'.text content label) where
  fits column := by
    simp only [Outlook.text]
    split
    · exact .refl _
    · exact .bind _ alike.fits
  shown column := by
    simp only [Outlook.text]
    cases addColumns column content.length with
    | error fault => exact .refl _
    | ok next =>
      simp only [Except.bind, map_shown_fragment]
      exact (alike.shown next).map _

theorem newline (indentation : Nat) {rest rest' : Outlook settings α}
    (alike : AlikeUnless excuse rest rest') :
    AlikeUnless excuse (rest.newline indentation) (rest'.newline indentation) where
  fits _ := .refl _
  shown column := by
    simp only [Outlook.newline]
    cases lineBreakLength indentation with
    | error fault => exact .refl _
    | ok size =>
      simp only [Except.bind, map_shown_fragment]
      exact (alike.shown indentation).map _

theorem atColumn {start start' : Nat → Outlook settings α}
    (alike : ∀ column, AlikeUnless excuse (start column) (start' column)) :
    AlikeUnless excuse (.atColumn start) (.atColumn start') :=
  ⟨fun column => (alike column).fits column, fun column => (alike column).shown column⟩

/-- A fault that is excused in looking ahead is excused in the display. -/
theorem choice {wide wide' narrow narrow' : Outlook settings α}
    (alike : AlikeUnless excuse wide wide') (alike' : AlikeUnless excuse narrow narrow') :
    AlikeUnless excuse (wide.choice narrow) (wide'.choice narrow') where
  fits column := by
    simp only [Outlook.choice]
    rcases alike.fits column with same | ⟨fault, excused, met⟩
    · rw [same]
      cases wide'.fits column with
      | error fault => exact .refl _
      | ok answer =>
        cases answer with
        | true => exact .refl _
        | false => exact alike'.fits column
    · rw [met]
      exact .inr ⟨fault, excused, rfl⟩
  shown column := by
    simp only [Outlook.choice]
    rcases alike.fits column with same | ⟨fault, excused, met⟩
    · rw [same]
      cases wide'.fits column with
      | error fault => exact .refl _
      | ok answer =>
        cases answer with
        | true =>
          simp only [map_shown_choice]
          exact alike.shown column
        | false =>
          simp only [map_shown_choice]
          exact alike'.shown column
    · rw [met]
      exact .inr ⟨fault, excused, rfl⟩

theorem before (d : Doc α) (indentation : Nat) {rest rest' : Outlook settings α}
    (alike : AlikeUnless excuse rest rest') :
    AlikeUnless excuse (d.before indentation rest) (d.before indentation rest') := by
  induction d generalizing indentation rest rest' with
  | empty => exact alike
  | text content label => exact alike.text content label
  | newline => exact alike.newline indentation
  | concat left right ihLeft ihRight => exact ihLeft indentation (ihRight indentation alike)
  | indent body ih =>
    simp only [Doc.before]
    cases addColumns indentation settings.tabWidth with
    | error fault => exact .refl _
    | ok deeper => exact ih deeper alike
  | hang body ih => exact .atColumn fun column => ih column alike
  | choice wide narrow ihWide ihNarrow =>
    exact .choice (ihWide indentation alike) (ihNarrow indentation alike)

theorem fill {d d' : Doc α} (context : Context α)
    (alike : ∀ indentation (rest : Outlook settings α),
      AlikeUnless excuse (d.before indentation rest) (d'.before indentation rest))
    (indentation : Nat) (rest : Outlook settings α) :
    AlikeUnless excuse ((context.fill d).before indentation rest)
      ((context.fill d').before indentation rest) := by
  induction context generalizing indentation rest with
  | hole => exact alike indentation rest
  | concatLeft left right ih => exact ih indentation (right.before indentation rest)
  | concatRight left right ih => exact .before left indentation (ih indentation rest)
  | indent body ih =>
    simp only [Context.fill, Doc.before]
    cases addColumns indentation settings.tabWidth with
    | error fault => exact .refl _
    | ok deeper => exact ih deeper rest
  | hang body ih => exact .atColumn fun column => ih column rest
  | choiceWide wide narrow ih => exact .choice (ih indentation rest) (.refl _)
  | choiceNarrow wide narrow ih => exact .choice (.refl _) (ih indentation rest)

end AlikeUnless

theorem Alike.choice {wide wide' narrow narrow' : Outlook settings α} (alike : Alike wide wide')
    (alike' : Alike narrow narrow') : Alike (wide.choice narrow) (wide'.choice narrow') :=
  (AlikeUnless.choice alike.unless alike'.unless).alike

end Outlook

namespace Doc

/-- Whether two documents display the same in every context, faults included. -/
def Interchangeable (d d' : Doc α) : Prop :=
  ∀ (settings : Settings) (context : Context α),
    (context.fill d).render settings = (context.fill d').render settings

theorem render_fill_sameUnless {d d' : Doc α} (settings : Settings) (context : Context α)
    (alike : ∀ indentation (rest : Outlook settings α),
      Outlook.AlikeUnless excuse (d.before indentation rest) (d'.before indentation rest)) :
    SameUnless excuse ((context.fill d).render settings) ((context.fill d').render settings) := by
  rw [render_eq_outlook, render_eq_outlook]
  exact (Outlook.AlikeUnless.fill context alike 0 .finished).shown 0

theorem interchangeable_of_alike {d d' : Doc α}
    (alike : ∀ (settings : Settings) (indentation : Nat) (rest : Outlook settings α),
      (d.before indentation rest).Alike (d'.before indentation rest)) :
    Interchangeable d d' := by
  intro settings context
  have same : SameUnless (fun _ => False) ((context.fill d).render settings)
      ((context.fill d').render settings) :=
    render_fill_sameUnless settings context
      fun indentation rest => (alike settings indentation rest).unless
  exact same.eq

theorem interchangeable_of_before_eq {d d' : Doc α}
    (same : ∀ (settings : Settings) (indentation : Nat) (rest : Outlook settings α),
      d.before indentation rest = d'.before indentation rest) :
    Interchangeable d d' :=
  interchangeable_of_alike fun settings indentation rest => same settings indentation rest ▸ .refl _

end Doc

end LineLayout
