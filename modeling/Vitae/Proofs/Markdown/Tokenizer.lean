import Vitae.Markdown.Reader
import Vitae.Proofs.Markdown.Forest
import Vitae.Proofs.Markdown.Outline

/-!
# Tokenizers

What is relied on of a tokenizer is where it puts its tokens. The block and inline readers keep to
it, so they make one.
-/

namespace Vitae.Markdown

/-- A way to make token forests of sources: blocks stand among blocks, items in lists and inline
tokens in paragraphs, links have strings as destinations, and first numbers are short. -/
structure Tokenizer where
  tokens : String → List Token
  allFit : ∀ source, Token.AllFit .block (tokens source)

def Tokenizer.read (t : Tokenizer) (links : LinkAttributes) (source : String) : Node :=
  document links (t.tokens source)

/-! ### The readers -/

mutual

theorem fits_inlineToken : (x : Inline) → (inlineToken x).Fits .text
  | .text _ => by rw [inlineToken, Token.Fits]
  | .softBreak => by rw [inlineToken, Token.Fits]
  | .gap => by
    rw [inlineToken]
    trivial
  | .span .strong body => by
    rw [inlineToken]
    exact ⟨rfl, trivial, allFit_inlineTokens body⟩
  | .span .emphasis body => by
    rw [inlineToken]
    exact ⟨rfl, trivial, allFit_inlineTokens body⟩
  | .span (.link url) body => by
    rw [inlineToken]
    exact ⟨rfl, ⟨_, rfl⟩, allFit_inlineTokens body⟩

theorem allFit_inlineTokens : (xs : List Inline) → Token.AllFit .text (inlineTokens xs)
  | [] => trivial
  | x :: rest => ⟨fits_inlineToken x, allFit_inlineTokens rest⟩

end

theorem hasShortStart_list {start : Option Nat} (h : IsShortStart start) :
    (Group.list (start.map Int.ofNat)).HasShortStart := by
  match start, h with
  | none, _ => trivial
  | some n, h =>
    have hn : n < 1000000000 := h n rfl
    have hlength : (Nat.toDigits 10 n).length ≤ 9 :=
      (Nat.length_toDigits_le_iff (by decide) (by decide)).2 hn
    show (Nat.toDigits 10 n).length ≤ 4300
    omega

mutual

theorem fits_blockToken (definitions : List Definition) : (b : Block) → b.IsShort →
    (blockToken definitions b).Fits .block
  | .paragraph source, _ => by
    rw [blockToken]
    exact ⟨rfl, trivial, allFit_inlineTokens _⟩
  | .list start items, h => by
    rw [blockToken]
    refine ⟨rfl, hasShortStart_list h.1, ?_⟩
    have hinside : (Group.list (start.map Int.ofNat)).inside = .item := by
      cases start <;> rfl
    rw [hinside]
    exact allFit_itemTokens definitions items h.2
  | .other, _ => by
    rw [blockToken]
    trivial

theorem allFit_itemTokens (definitions : List Definition) : (items : List (List Block)) →
    Block.ItemsShort items → Token.AllFit .item (itemTokens definitions items)
  | [], _ => trivial
  | item :: rest, h =>
    ⟨⟨rfl, trivial, allFit_blockTokens definitions item h.1⟩,
      allFit_itemTokens definitions rest h.2⟩

theorem allFit_blockTokens (definitions : List Definition) : (blocks : List Block) →
    Block.AllShort blocks → Token.AllFit .block (blockTokens definitions blocks)
  | [], _ => trivial
  | b :: rest, h =>
    ⟨fits_blockToken definitions b h.1, allFit_blockTokens definitions rest h.2⟩

end

/-- The tokenizer that the block and the inline reader make. -/
def Tokenizer.standard : Tokenizer where
  tokens := Markdown.tokens
  allFit := fun source => allFit_blockTokens _ _ (allShort_readBlocks source.toList)

/-! ### Documents of sources -/

/-- Blocks in their places make a document that breaks no rule and can be stored. -/
theorem conforms_document {links : LinkAttributes} (hlinks : links.ArePlain) {tokens : List Token}
    (h : Token.AllFit .block tokens) :
    (Draft.ofNode (document links tokens)).violations = [] ∧ (document links tokens).Storable := by
  have hall := conforms_transformRun hlinks tokens .block [] [] (by simp) (Or.inl rfl) h
  refine ⟨violations_branch hall, fun mark hmark => ?_, fun start hstart => ?_⟩
  · have hmem : mark ∈ (transform links [] tokens).flatMap Node.marks := by
      rw [← Node.marks_branch .doc]
      exact hmark
    obtain ⟨node, hnode, hmark⟩ := List.mem_flatMap.1 hmem
    exact (hall node hnode).2.2.1 mark hmark
  · obtain ⟨node, hnode, hstart⟩ := mem_allStarts_iff.1
      (show start ∈ Node.allStarts (transform links [] tokens) from hstart)
    exact (hall node hnode).2.2.2 start hstart

end Vitae.Markdown
