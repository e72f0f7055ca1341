import LineLayout.Doc.Resolve
import LineLayout.Layout.Placement
import LineLayout.Proofs.Printer.Trails
/-!
The replay of decisions over a document is the layout of the document that they resolve it to, and
the fragments of a layout determine the columns that it passes.
-/
namespace LineLayout.Doc

open Printer (Event)

variable {α : Type}

/-- The resolutions of a document, each with the decisions that it takes in display order. -/
inductive Resolution : Doc α → List Bool → Doc α → Prop
  | empty : Resolution empty [] empty
  | text (content : String) (label : Option α) :
    Resolution (text content label) [] (text content label)
  | newline : Resolution newline [] newline
  | concat {left right left' right' : Doc α} {first second : List Bool}
      (resolution : Resolution left first left') (resolution' : Resolution right second right') :
    Resolution (concat left right) (first ++ second) (concat left' right')
  | indent {body body' : Doc α} {decisions : List Bool}
      (resolution : Resolution body decisions body') :
    Resolution (indent body) decisions (indent body')
  | hang {body body' : Doc α} {decisions : List Bool}
      (resolution : Resolution body decisions body') :
    Resolution (hang body) decisions (hang body')
  | wide {wide wide' : Doc α} {decisions : List Bool} (narrow : Doc α)
      (resolution : Resolution wide decisions wide') :
    Resolution (choice wide narrow) (true :: decisions) wide'
  | narrow {narrow narrow' : Doc α} {decisions : List Bool} (wide : Doc α)
      (resolution : Resolution narrow decisions narrow') :
    Resolution (choice wide narrow) (false :: decisions) narrow'

theorem Resolution.choiceFree {d resolved : Doc α} {decisions : List Bool}
    (resolution : Resolution d decisions resolved) : resolved.ChoiceFree := by
  induction resolution with
  | empty | text | newline => trivial
  | concat _ _ ihLeft ihRight => exact ⟨ihLeft, ihRight⟩
  | indent _ ih | hang _ ih | wide _ _ ih | narrow _ _ ih => exact ih

theorem Resolution.resolve_append {d resolved : Doc α} {decisions : List Bool}
    (resolution : Resolution d decisions resolved) (left : List Bool) :
    d.resolve (decisions ++ left) = some (resolved, left) := by
  induction resolution generalizing left with
  | empty | text | newline => rfl
  | concat _ _ ihLeft ihRight => simp [resolve, ihLeft, ihRight]
  | indent _ ih | hang _ ih => simp [resolve, ih]
  | wide _ _ ih | narrow _ _ ih => exact ih left

theorem exists_resolution_of_resolve {d resolved : Doc α} {decisions left : List Bool}
    (resolves : d.resolve decisions = some (resolved, left)) :
    ∃ taken, decisions = taken ++ left ∧ Resolution d taken resolved := by
  induction d generalizing decisions resolved left with
  | empty =>
    cases resolves
    exact ⟨[], rfl, .empty⟩
  | text content label =>
    cases resolves
    exact ⟨[], rfl, .text content label⟩
  | newline =>
    cases resolves
    exact ⟨[], rfl, .newline⟩
  | concat first second ihFirst ihSecond =>
    simp only [resolve, Option.bind_eq_bind, Option.bind_eq_some_iff] at resolves
    obtain ⟨⟨first', between⟩, resolvesFirst, ⟨second', after⟩, resolvesSecond, same⟩ := resolves
    cases same
    obtain ⟨taken, rfl, resolution⟩ := ihFirst resolvesFirst
    obtain ⟨taken', rfl, resolution'⟩ := ihSecond resolvesSecond
    exact ⟨taken ++ taken', (List.append_assoc ..).symm, resolution.concat resolution'⟩
  | indent body ih =>
    simp only [resolve, Option.bind_eq_bind, Option.bind_eq_some_iff] at resolves
    obtain ⟨⟨body', after⟩, resolvesBody, same⟩ := resolves
    cases same
    obtain ⟨taken, rfl, resolution⟩ := ih resolvesBody
    exact ⟨taken, rfl, resolution.indent⟩
  | hang body ih =>
    simp only [resolve, Option.bind_eq_bind, Option.bind_eq_some_iff] at resolves
    obtain ⟨⟨body', after⟩, resolvesBody, same⟩ := resolves
    cases same
    obtain ⟨taken, rfl, resolution⟩ := ih resolvesBody
    exact ⟨taken, rfl, resolution.hang⟩
  | choice wide narrow ihWide ihNarrow =>
    cases decisions with
    | nil => cases resolves
    | cons isWide decisions =>
      cases isWide with
      | true =>
        obtain ⟨taken, rfl, resolution⟩ := ihWide resolves
        exact ⟨true :: taken, rfl, resolution.wide narrow⟩
      | false =>
        obtain ⟨taken, rfl, resolution⟩ := ihNarrow resolves
        exact ⟨false :: taken, rfl, resolution.narrow wide⟩

theorem choiceFree_of_resolve {d resolved : Doc α} {decisions left : List Bool}
    (resolves : d.resolve decisions = some (resolved, left)) : resolved.ChoiceFree := by
  obtain ⟨taken, _, resolution⟩ := exists_resolution_of_resolve resolves
  exact resolution.choiceFree

/-- A replay that does not run out of decisions displays what the resolved document places. -/
theorem exists_resolve_of_replay {tabWidth indentation column : Nat} {d : Doc α}
    {decisions : List Bool} {replayed : Replayed α}
    (replays : d.replay tabWidth indentation column decisions = some replayed) :
    ∃ resolved, d.resolve decisions = some (resolved, replayed.decisions) ∧
      resolved.place tabWidth indentation column =
        (Event.shown replayed.events, replayed.column) := by
  induction d generalizing indentation column decisions replayed with
  | empty | text | newline =>
    cases replays
    exact ⟨_, rfl, rfl⟩
  | concat first second ihFirst ihSecond =>
    simp only [replay, Option.bind_eq_bind, Option.bind_eq_some_iff] at replays
    obtain ⟨atFirst, replaysFirst, atSecond, replaysSecond, same⟩ := replays
    cases same
    obtain ⟨first', resolvesFirst, placesFirst⟩ := ihFirst replaysFirst
    obtain ⟨second', resolvesSecond, placesSecond⟩ := ihSecond replaysSecond
    refine ⟨concat first' second', ?_, ?_⟩
    · simp [resolve, resolvesFirst, resolvesSecond]
    · simp [place, placesFirst, placesSecond]
  | indent body ih =>
    obtain ⟨body', resolves, places⟩ := ih replays
    exact ⟨indent body', by simp [resolve, resolves], places⟩
  | hang body ih =>
    obtain ⟨body', resolves, places⟩ := ih replays
    exact ⟨hang body', by simp [resolve, resolves], places⟩
  | choice wide narrow ihWide ihNarrow =>
    cases decisions with
    | nil => cases replays
    | cons isWide decisions =>
      cases isWide with
      | true =>
        obtain ⟨chosen, replaysWide, same⟩ := Option.bind_eq_some_iff.mp replays
        cases same
        obtain ⟨wide', resolves, places⟩ := ihWide replaysWide
        exact ⟨wide', resolves, places⟩
      | false =>
        obtain ⟨chosen, replaysNarrow, same⟩ := Option.bind_eq_some_iff.mp replays
        cases same
        obtain ⟨narrow', resolves, places⟩ := ihNarrow replaysNarrow
        exact ⟨narrow', resolves, places⟩

theorem place_snd (tabWidth indentation column : Nat) (d : Doc α) :
    (d.place tabWidth indentation column).2 =
      (d.place tabWidth indentation column).1.foldl Fragment.columnAfter column := by
  induction d generalizing indentation column with
  | empty | text | newline => rfl
  | concat first second ihFirst ihSecond =>
    simp only [place, List.foldl_append, ← ihFirst, ← ihSecond]
  | indent body ih | hang body ih | choice body _ ih _ => exact ih ..

theorem cons_columns_eq_scanl (tabWidth indentation column : Nat) (d : Doc α) :
    column :: d.columns tabWidth indentation column =
      (d.place tabWidth indentation column).1.scanl Fragment.columnAfter column := by
  induction d generalizing indentation column with
  | empty | text | newline =>
    simp [columns, place, Fragment.columnAfter]
  | concat first second ihFirst ihSecond =>
    simp only [columns, place, List.scanl_append, ← place_snd, ← ihFirst, ← ihSecond]
    rfl
  | indent body ih | hang body ih | choice body _ ih _ => exact ih ..

theorem getElem?_cons_columns {tabWidth indentation column last : Nat} {d : Doc α}
    {before after : List (Fragment α)}
    (places : d.place tabWidth indentation column = (before ++ after, last)) :
    (column :: d.columns tabWidth indentation column)[before.length]? =
      some (before.foldl Fragment.columnAfter column) := by
  rw [cons_columns_eq_scanl, places, List.getElem?_scanl, if_pos (by simp), List.take_left]

end LineLayout.Doc
