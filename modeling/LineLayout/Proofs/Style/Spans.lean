import Mathlib.Data.List.Chain
import LineLayout.Layout.Printer
import LineLayout.Style.StyledText
/-!
The spans of styled text: what is pushed piece by piece is kept as the only list of spans that has
its characters in their styles, no empty span and no two neighbours of one style.
-/
namespace LineLayout.StyledText

variable {α σ : Type}

@[simp] theorem characters_nil : characters ([] : List (String × σ)) = [] := rfl

@[simp] theorem characters_cons (content : String) (style : σ) (later : List (String × σ)) :
    characters ((content, style) :: later) = content.toList.map (·, style) ++ characters later :=
  List.flatMap_cons

theorem characters_append (pieces pieces' : List (String × σ)) :
    characters (pieces ++ pieces') = characters pieces ++ characters pieces' :=
  List.flatMap_append

theorem map_fst_characters (pieces : List (String × σ)) :
    (characters pieces).map Prod.fst = (String.join (pieces.map Prod.fst)).toList := by
  induction pieces with
  | nil => simp
  | cons piece later ih =>
    obtain ⟨content, style⟩ := piece
    simp [ih, Function.comp_def]

theorem isEmpty_iff_spans {text : StyledText σ} : text.isEmpty = true ↔ text.spans = [] := by
  rw [isEmpty, spans, List.reverse_eq_nil_iff, List.isEmpty_iff]

theorem display_eq_join (text : StyledText σ) :
    text.display = String.join (text.spans.map Prod.fst) := by
  rw [display, String.join, List.foldl_map]

/-- Whether no span is empty, and neighbours differ in style. -/
structure Merged (spans : List (String × σ)) : Prop where
  nonempty : ∀ span ∈ spans, span.1 ≠ ""
  apart : spans.IsChain fun span next => span.2 ≠ next.2

theorem merged_empty : Merged (empty : StyledText σ).spans := ⟨nofun, .nil⟩

theorem Merged.tail {span : String × σ} {later : List (String × σ)}
    (merged : Merged (span :: later)) : Merged later :=
  ⟨(List.forall_mem_cons.mp merged.nonempty).2, merged.apart.tail⟩

theorem Merged.characters_eq_nil {spans : List (String × σ)} (merged : Merged spans) :
    characters spans = [] ↔ spans = [] := by
  constructor
  · intro nothing
    cases spans with
    | nil => rfl
    | cons span later =>
      obtain ⟨content, style⟩ := span
      have filled : content ≠ "" := merged.nonempty (content, style) List.mem_cons_self
      simp only [characters_cons, List.append_eq_nil_iff, List.map_eq_nil_iff] at nothing
      exact absurd (String.toList_eq_nil_iff.mp nothing.1) filled
  · rintro rfl
    rfl

section Normal

variable {spans spans' : List (String × σ)} {content content' : String} {style style' : σ}

theorem Merged.style_of_characters (merged : Merged ((content, style) :: spans))
    (merged' : Merged ((content', style') :: spans'))
    (same : characters ((content, style) :: spans) =
      characters ((content', style') :: spans')) : style = style' := by
  have filled : content ≠ "" := merged.nonempty (content, style) List.mem_cons_self
  have filled' : content' ≠ "" := merged'.nonempty (content', style') List.mem_cons_self
  cases chars : content.toList with
  | nil => exact absurd (String.toList_eq_nil_iff.mp chars) filled
  | cons char rest =>
    cases chars' : content'.toList with
    | nil => exact absurd (String.toList_eq_nil_iff.mp chars') filled'
    | cons char' rest' =>
      simp only [characters_cons, chars, chars', List.map_cons, List.cons_append,
        List.cons.injEq, Prod.mk.injEq] at same
      exact same.1.2

variable [BEq σ] [LawfulBEq σ]

theorem Merged.takeWhile_characters (merged : Merged ((content, style) :: spans)) :
    (characters ((content, style) :: spans)).takeWhile (·.2 == style) =
      content.toList.map (·, style) := by
  have inside : ∀ entry ∈ content.toList.map (·, style), (entry.2 == style) = true := by
    intro entry member
    obtain ⟨char, _, rfl⟩ := List.mem_map.mp member
    exact beq_self_eq_true style
  have stop : (characters spans).takeWhile (·.2 == style) = [] := by
    cases spans with
    | nil => rfl
    | cons next others =>
      obtain ⟨text, other⟩ := next
      have differs : style ≠ other := (List.isChain_cons_cons.mp merged.apart).1
      have filled : text ≠ "" := merged.nonempty (text, other) (by simp)
      cases chars : text.toList with
      | nil => exact absurd (String.toList_eq_nil_iff.mp chars) filled
      | cons char rest => simp [chars, differs.symm]
  rw [characters_cons, List.takeWhile_append_of_pos inside, stop, List.append_nil]

/-- The characters in their styles determine the spans. -/
theorem Merged.eq_of_characters (merged : Merged spans) (merged' : Merged spans')
    (same : characters spans = characters spans') : spans = spans' := by
  induction spans generalizing spans' with
  | nil => exact (merged'.characters_eq_nil.mp same.symm).symm
  | cons span later ih =>
    cases spans' with
    | nil => exact merged.characters_eq_nil.mp same
    | cons span' later' =>
      obtain ⟨content, style⟩ := span
      obtain ⟨content', style'⟩ := span'
      obtain rfl := merged.style_of_characters merged' same
      -- Up to the first character of another style both start with the same text.
      have fronts := congrArg (List.takeWhile (·.2 == style)) same
      rw [merged.takeWhile_characters, merged'.takeWhile_characters] at fronts
      have texts := congrArg (List.map Prod.fst) fronts
      simp only [List.map_map, Function.comp_def, List.map_id_fun', id] at texts
      obtain rfl := String.toList_inj.mp texts
      have rest := List.append_cancel_left same
      rw [ih merged.tail merged'.tail rest]

end Normal

section Push

variable [BEq σ]

theorem ofFragments_eq_pushAll (styleOf : Option α → σ) (fragments : List (Fragment α)) :
    ofFragments styleOf fragments =
      empty.pushAll (fragments.map fun fragment => (fragment.content, styleOf fragment.label)) := by
  rw [ofFragments, pushAll, List.foldl_map]

variable [LawfulBEq σ]

theorem push_cases (text : StyledText σ) (content : String) (style : σ) :
    (content = "" ∧ text.push content style = text) ∨
    (content ≠ "" ∧ ∃ earlier last, text.spans = earlier ++ [(last, style)] ∧
      (text.push content style).spans = earlier ++ [(last ++ content, style)]) ∨
    (content ≠ "" ∧ (∀ last ∈ text.spans.getLast?, last.2 ≠ style) ∧
      (text.push content style).spans = text.spans ++ [(content, style)]) := by
  by_cases empty : content = ""
  · exact .inl ⟨empty, by simp [push, empty]⟩
  · have filled : content.isEmpty = false := by simpa using empty
    obtain ⟨latestFirst⟩ := text
    cases latestFirst with
    | nil => exact .inr (.inr ⟨empty, by simp [spans], by simp [push, filled, spans]⟩)
    | cons latest earlier =>
      obtain ⟨last, lastStyle⟩ := latest
      by_cases same : lastStyle = style
      · refine .inr (.inl ⟨empty, earlier.reverse, last, ?_, ?_⟩)
        · simp [spans, same]
        · simp [push, filled, spans, same]
      · refine .inr (.inr ⟨empty, ?_, ?_⟩)
        · simp [spans, same]
        · simp [push, filled, spans, same]

theorem characters_push (text : StyledText σ) (content : String) (style : σ) :
    characters (text.push content style).spans =
      characters text.spans ++ content.toList.map (·, style) := by
  rcases text.push_cases content style with
    ⟨rfl, same⟩ | ⟨_, earlier, last, before, after⟩ | ⟨_, _, after⟩
  · simp [same]
  · rw [before, after]
    simp [characters_append]
  · rw [after]
    simp [characters_append]

theorem Merged.push {text : StyledText σ} (merged : Merged text.spans) (content : String)
    (style : σ) : Merged (text.push content style).spans := by
  rcases text.push_cases content style with
    ⟨rfl, same⟩ | ⟨filled, earlier, last, before, after⟩ | ⟨filled, differs, after⟩
  · rwa [same]
  · rw [before] at merged
    obtain ⟨nonempty, apart⟩ := merged
    rw [List.forall_mem_append] at nonempty
    rw [List.isChain_append] at apart
    rw [after]
    refine ⟨List.forall_mem_append.mpr ⟨nonempty.1, ?_⟩, List.isChain_append.mpr ?_⟩
    · simp [filled]
    · refine ⟨apart.1, .singleton _, ?_⟩
      intro previous present next first
      cases first
      exact apart.2.2 previous present (last, style) rfl
  · rw [after]
    refine ⟨List.forall_mem_append.mpr ⟨merged.nonempty, ?_⟩, List.isChain_append.mpr ?_⟩
    · simpa using filled
    · refine ⟨merged.apart, .singleton _, ?_⟩
      intro last present next first
      cases first
      exact differs last present

variable (text : StyledText σ) (pieces : List (String × σ))

theorem characters_pushAll :
    characters (text.pushAll pieces).spans = characters text.spans ++ characters pieces := by
  induction pieces generalizing text with
  | nil => simp [pushAll]
  | cons piece later ih =>
    obtain ⟨content, style⟩ := piece
    have pushed := ih (text.push content style)
    rw [characters_push, List.append_assoc] at pushed
    exact pushed

theorem Merged.pushAll {text : StyledText σ} (merged : Merged text.spans) :
    Merged (text.pushAll pieces).spans := by
  induction pieces generalizing text with
  | nil => exact merged
  | cons piece later ih => exact ih (merged.push piece.1 piece.2)

theorem display_pushAll :
    (empty.pushAll pieces).display = String.join (pieces.map Prod.fst) := by
  rw [display_eq_join, ← String.toList_inj, ← map_fst_characters, characters_pushAll,
    ← map_fst_characters]
  rfl

end Push

/-- Styled text has merged spans and the characters that were pushed, each in its style; nothing else
decides what its spans are. It shows the texts that were pushed, and of fragments that are styled by
their labels it shows each character in the style of its own fragment. -/
theorem spans_canonical [BEq σ] [LawfulBEq σ] (pieces : List (String × σ)) :
    Merged (empty.pushAll pieces).spans ∧
    characters (empty.pushAll pieces).spans = characters pieces ∧
    (empty.pushAll pieces).display = String.join (pieces.map Prod.fst) ∧
    ((empty.pushAll pieces).isEmpty = true ↔ String.join (pieces.map Prod.fst) = "") ∧
    (∀ pieces', characters pieces' = characters pieces →
      (empty.pushAll pieces').spans = (empty.pushAll pieces).spans) ∧
    ∀ (α : Type) (styleOf : Option α → σ),
      (∀ (settings : Settings) (d : Doc α),
        (d.render settings).map (fun fragments => (ofFragments styleOf fragments).display) =
          d.pretty settings) ∧
      ∀ fragments, characters (ofFragments styleOf fragments).spans =
        fragments.flatMap fun fragment =>
          fragment.content.toList.map (·, styleOf fragment.label) := by
  have merged : ∀ pieces : List (String × σ), Merged (empty.pushAll pieces).spans :=
    merged_empty.pushAll
  have kept : ∀ pieces : List (String × σ),
      characters (empty.pushAll pieces).spans = characters pieces :=
    fun pieces => characters_pushAll empty pieces
  refine ⟨merged pieces, kept pieces, display_pushAll pieces, ?_, ?_, ?_⟩
  · rw [isEmpty_iff_spans, ← (merged pieces).characters_eq_nil, kept, ← String.toList_eq_nil_iff,
      ← map_fst_characters, List.map_eq_nil_iff]
  · intro pieces' same
    apply (merged pieces').eq_of_characters (merged pieces)
    rw [kept, kept, same]
  · intro α styleOf
    have shown : ∀ fragments : List (Fragment α),
        (ofFragments styleOf fragments).display = Fragment.plainText fragments := by
      intro fragments
      rw [ofFragments_eq_pushAll, display_pushAll, List.map_map, Fragment.plainText, String.join,
        List.foldl_map]
      rfl
    constructor
    · intro settings d
      rw [Doc.pretty]
      exact congrArg (Except.map · _) (funext shown)
    · intro fragments
      rw [ofFragments_eq_pushAll, kept, characters, List.flatMap_map]

theorem spans_around_empty_piece :
    (empty.pushAll [("a", true), ("", false), ("b", true), ("c", false)]).spans =
      [("ab", true), ("c", false)] ∧
    Merged [("ab", true), ("c", false)] := by
  have canonical := spans_canonical [("ab", true), ("c", false)]
  have whole : (empty.pushAll [("ab", true), ("c", false)]).spans =
      [("ab", true), ("c", false)] := by
    decide +kernel
  obtain ⟨merged, _, _, _, unique, _⟩ := canonical
  have same := unique [("a", true), ("", false), ("b", true), ("c", false)] (by decide +kernel)
  rw [whole] at merged same
  exact ⟨same, merged⟩

end LineLayout.StyledText
