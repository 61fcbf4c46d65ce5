import Vitae.Markdown.Record
import Vitae.Proofs.Html.Escape

/-!
# Escaped text as a source

The raw form of a text token may be an escaped text: its leaf then has the text itself, and a
rendered leaf has the raw form again. Escaping writes references and nothing else that a decoder
could take for one.
-/

namespace Vitae.Html

open Markdown (LinkAttributes Record transform transformRun)

/-! ### Ampersands -/

/-- What escaping writes for the characters that it changes. -/
def references : List (List Char) :=
  ["&amp;".toList, "&lt;".toList, "&gt;".toList, "&quot;".toList, "&#x27;".toList]

theorem ampersand_notMem_tail_escapeChar (c : Char) : '&' ∉ (escapeChar c).tail := by
  unfold escapeChar
  split
  · decide
  · decide
  · decide
  · decide
  · decide
  · exact List.not_mem_nil

theorem escapeChar_mem_references {c : Char} : '&' ∈ escapeChar c → escapeChar c ∈ references := by
  unfold escapeChar
  split
  · decide
  · decide
  · decide
  · decide
  · decide
  · rename_i hamp _ _ _ _
    intro h
    exact absurd (List.mem_singleton.1 h).symm hamp

theorem of_escapeChar_eq {c : Char} {before after : List Char}
    (h : escapeChar c = before ++ '&' :: after) : before = [] ∧ escapeChar c ∈ references := by
  have hmem : '&' ∈ escapeChar c := by
    rw [h]
    exact List.mem_append_right _ (List.mem_cons_self ..)
  refine ⟨?_, escapeChar_mem_references hmem⟩
  cases before with
  | nil => rfl
  | cons first before =>
    have htail := ampersand_notMem_tail_escapeChar c
    rw [h, List.cons_append, List.tail_cons] at htail
    exact absurd (List.mem_append_right _ (List.mem_cons_self ..)) htail

/-- An ampersand in an escaped text begins the reference that is written for one of the text's
characters. -/
theorem exists_of_escape_eq {cs before after : List Char}
    (h : escape cs = before ++ '&' :: after) :
    ∃ done c rest, cs = done ++ c :: rest ∧ escapeChar c ∈ references ∧
      before = escape done ∧ '&' :: after = escapeChar c ++ escape rest := by
  induction cs generalizing before with
  | nil => simp [escape] at h
  | cons c cs ih =>
    have hcons (done : List Char) : escape (c :: done) = escapeChar c ++ escape done :=
      List.flatMap_cons
    rw [hcons, List.append_eq_append_iff] at h
    -- The ampersand stands behind the image of the first character or in it, and then in front.
    rcases h with ⟨more, hbefore, hmore⟩ | ⟨more, himage, hafter⟩
    · obtain ⟨done, d, rest, rfl, hd, rfl, hrest⟩ := ih hmore
      exact ⟨c :: done, d, rest, rfl, hd, by rw [hbefore, hcons], hrest⟩
    · cases more with
      | nil =>
        have hrest : escape cs = [] ++ '&' :: after := hafter.symm
        obtain ⟨done, d, rest, rfl, hd, hdone, hrest⟩ := ih hrest
        refine ⟨c :: done, d, rest, rfl, hd, ?_, hrest⟩
        rw [hcons, himage, ← hdone, List.append_nil, List.append_nil]
      | cons first more =>
        rw [List.cons_append, List.cons.injEq] at hafter
        obtain ⟨rfl, hafter⟩ := hafter
        obtain ⟨rfl, hc⟩ := of_escapeChar_eq himage
        refine ⟨[], c, cs, rfl, hc, rfl, ?_⟩
        rw [himage, hafter]
        rfl

/-! ### Tokens -/

/-- A text token whose raw form is an escaped text. -/
def escapedToken (cs : List Char) (attrs : Json) (children : List Record) : Markdown.Token :=
  Record.token ⟨"text", some (String.ofList (escape cs)), attrs, children⟩

section

variable (links : LinkAttributes) (marks : List Mark) (cs : List Char) (attrs : Json)
  (children : List Record)

theorem transformRun_escapedToken (run : List Char) (rest : List Markdown.Token) :
    transformRun links marks run (escapedToken cs attrs children :: rest) =
      transformRun links marks (run ++ cs) rest := by
  have htoken : escapedToken cs attrs children = .text (String.ofList (escape cs)) := rfl
  rw [htoken, transformRun, String.toList_ofList, decode_escape]

theorem transform_escapedToken :
    transform links marks [escapedToken cs attrs children] = Markdown.leaf marks cs := by
  rw [transform, transformRun_escapedToken, List.nil_append, transformRun]

end

/-! ### Rendered leaves -/

/-- A rendering that puts something around a text, unless it fails whatever the text is. -/
inductive Wraps (f : List Char → Except Failure (List Char)) : Prop
  | fails (e : Failure) (h : ∀ body, f body = .error e)
  | around (opening closing : List Char) (h : ∀ body, f body = .ok (opening ++ body ++ closing))

theorem Wraps.bind {f g : List Char → Except Failure (List Char)} (hf : Wraps f) (hg : Wraps g) :
    Wraps fun body => f body >>= g := by
  cases hf with
  | fails e hf =>
    refine .fails e fun body => ?_
    rw [hf]
    rfl
  | around opening closing hf =>
    cases hg with
    | fails e hg =>
      refine .fails e fun body => ?_
      rw [hf]
      exact hg _
    | around before after hg =>
      refine .around (before ++ opening) (closing ++ after) fun body => ?_
      have hbody : (Except.ok (opening ++ body ++ closing) : Except Failure _) >>= g =
          g (opening ++ body ++ closing) := rfl
      rw [hf, hbody, hg]
      simp only [List.append_assoc]

/-- What a rendering needs besides the text is the same for every text. -/
theorem Wraps.given {α : Type} (r : Except Failure α)
    {f : α → List Char → Except Failure (List Char)} (h : ∀ a, Wraps (f a)) :
    Wraps fun body => r >>= fun a => f a body := by
  cases r with
  | error e => exact .fails e fun _ => rfl
  | ok a => exact h a

section

variable (style : Style) (underline : Bool)

theorem wraps_element (tag : String) : Wraps fun body => .ok (element tag body) := by
  refine .around ('<' :: (tag.toList ++ ['>'])) ('<' :: '/' :: (tag.toList ++ ['>']))
    fun body => ?_
  simp [element]

theorem wraps_anchor (href target className : Json) :
    Wraps fun body => anchor style underline href target className body := by
  have htarget (href target : List Char) : Wraps fun body =>
      attr? style "class" className >>= fun className => .ok
        ("<a".toList ++ (href ++ (target ++ (className ++ ('>' :: (body ++ "</a>".toList)))))) := by
    refine .given _ fun className => ?_
    refine .around ("<a".toList ++ (href ++ (target ++ (className ++ ['>'])))) "</a>".toList
      fun body => ?_
    simp only [List.append_assoc, List.cons_append, List.nil_append]
  refine .given _ fun href => ?_
  cases underline with
  | true => exact htarget href []
  | false => exact .given (attr? style "target" target) (htarget href)

theorem wraps_applyMark (mark : Mark) : Wraps fun body => applyMark style underline body mark := by
  cases mark with
  | bold => exact wraps_element "strong"
  | italic => exact wraps_element "em"
  | underline => exact wraps_element "u"
  | link href target className => exact wraps_anchor style underline href target className

theorem wraps_applyMarks (marks : List Mark) :
    Wraps fun body => applyMarks style underline body marks := by
  induction marks with
  | nil =>
    refine .around [] [] fun body => ?_
    rw [applyMarks, List.nil_append, List.append_nil]
  | cons mark marks ih =>
    have hbind (body : List Char) : applyMarks style underline body (mark :: marks) =
        applyMark style underline body mark >>= (applyMarks style underline · marks) := by
      rw [applyMarks]
      cases applyMark style underline body mark <;> rfl
    simp only [hbind]
    exact (wraps_applyMark style underline mark).bind ih

end

/-- Escaping is undone by decoding, goes on piece by piece and leaves no delimiter; a token with an
escaped text as its raw form gives the text to its leaf, and the leaf is rendered as the raw form,
between what its marks put around any text. -/
theorem escape_transcribes (cs more : List Char) :
    CharRef.decode (escape cs) = cs ∧
      escape (cs ++ more) = escape cs ++ escape more ∧
      (∀ e ∈ escape cs, e ≠ '<' ∧ e ≠ '>' ∧ e ≠ '"' ∧ e ≠ '\'') ∧
      (∀ before after, escape cs = before ++ '&' :: after →
        ∃ done c rest, cs = done ++ c :: rest ∧ escapeChar c ∈ references ∧
          before = escape done ∧ '&' :: after = escapeChar c ++ escape rest) ∧
      (∀ attrs children links marks,
        (∀ run rest, transformRun links marks run (escapedToken cs attrs children :: rest) =
          transformRun links marks (run ++ cs) rest) ∧
        (cs ≠ [] → transform links marks [escapedToken cs attrs children] =
          [.text (String.ofList cs) marks])) ∧
      ∀ defaultHref underline,
        render ⟨true, defaultHref⟩ underline (.text (String.ofList cs) []) = .ok (escape cs) ∧
        ∀ marks,
          (∃ e, ∀ text, render ⟨true, defaultHref⟩ underline (.text text marks) = .error e) ∨
          ∃ opening closing, ∀ text, render ⟨true, defaultHref⟩ underline (.text text marks) =
            .ok (opening ++ escape text.toList ++ closing) := by
  refine ⟨decode_escape cs, escape_append cs more, fun e => ne_delimiter_of_mem_escape,
    fun before after => exists_of_escape_eq, ?_, ?_⟩
  · intro attrs children links marks
    refine ⟨transformRun_escapedToken links marks cs attrs children, fun hne => ?_⟩
    obtain ⟨first, rest, rfl⟩ := List.exists_cons_of_ne_nil hne
    rw [transform_escapedToken, Markdown.leaf_cons]
  · intro defaultHref underline
    constructor
    · rw [render, applyMarks, String.toList_ofList]
      rfl
    · intro marks
      cases wraps_applyMarks ⟨true, defaultHref⟩ underline marks with
      | fails e h => exact Or.inl ⟨e, fun text => h _⟩
      | around opening closing h => exact Or.inr ⟨opening, closing, fun text => h _⟩

end Vitae.Html
