import Vitae.Markdown.Block

/-!
# First numbers of lists

A list takes its first number from a marker of at most nine digits. No step of the block reader makes
another one, so every list that a source leads to has a short first number.
-/

namespace Vitae.Markdown

/-! ### Short first numbers -/

/-- Has the number, if there is one, at most nine digits? -/
def IsShortStart (start : Option Nat) : Prop := ∀ n ∈ start, n < 1000000000

mutual

def Block.IsShort : Block → Prop
  | .list start items => IsShortStart start ∧ Block.ItemsShort items
  | _ => True

def Block.ItemsShort : List (List Block) → Prop
  | [] => True
  | item :: rest => Block.AllShort item ∧ Block.ItemsShort rest

def Block.AllShort : List Block → Prop
  | [] => True
  | b :: rest => Block.IsShort b ∧ Block.AllShort rest

end

theorem Block.allShort_iff {blocks : List Block} :
    Block.AllShort blocks ↔ ∀ b ∈ blocks, b.IsShort := by
  induction blocks with
  | nil => simp [Block.AllShort]
  | cons b rest ih => simp [Block.AllShort, ih]

theorem Block.itemsShort_iff {items : List (List Block)} :
    Block.ItemsShort items ↔ ∀ item ∈ items, Block.AllShort item := by
  induction items with
  | nil => simp [Block.ItemsShort]
  | cons item rest ih => simp [Block.ItemsShort, ih]

theorem Block.allShort_reverse {blocks : List Block} :
    Block.AllShort blocks.reverse ↔ Block.AllShort blocks := by
  simp only [Block.allShort_iff, List.mem_reverse]

theorem Block.itemsShort_reverse {items : List (List Block)} :
    Block.ItemsShort items.reverse ↔ Block.ItemsShort items := by
  simp only [Block.itemsShort_iff, List.mem_reverse]

/-- Do all lists in an open container have short first numbers, and itself, if it is one? -/
def Frame.IsShort : Frame → Prop
  | .quote _ => True
  | .list _ start items => IsShortStart start ∧ Block.ItemsShort items
  | .item _ blocks => Block.AllShort blocks

/-- The invariant of the block reader. -/
def Outline.IsShort (o : Outline) : Prop :=
  (∀ f ∈ o.frames, f.IsShort) ∧ Block.AllShort o.blocks

/-! ### Markers -/

theorem toNat_sub_le {c : Char} (hc : Tag.isDigit c = true) : c.toNat - 48 ≤ 9 := by
  simp only [Tag.isDigit, Bool.and_eq_true, decide_eq_true_eq] at hc
  have hle : c.toNat ≤ '9'.toNat := hc.2
  have hnine : '9'.toNat = 57 := rfl
  omega

theorem foldl_digits_lt (digits : List Char) (h : ∀ c ∈ digits, Tag.isDigit c = true)
    {n bound : Nat} (hn : n < bound) :
    digits.foldl (fun n c => 10 * n + (c.toNat - 48)) n < bound * Nat.pow 10 digits.length := by
  induction digits generalizing n bound with
  | nil => simpa using hn
  | cons c rest ih =>
    have hc := toNat_sub_le (h c (List.mem_cons_self ..))
    have hnext : 10 * n + (c.toNat - 48) < 10 * bound := by omega
    have hall := ih (fun d hd => h d (List.mem_cons_of_mem _ hd)) hnext
    have hpow : 10 * bound * Nat.pow 10 rest.length = bound * Nat.pow 10 (rest.length + 1) := by
      rw [Nat.mul_comm 10 bound, Nat.mul_assoc, Nat.mul_comm 10]
      rfl
    rw [hpow] at hall
    exact hall

theorem isShortStart_none : IsShortStart none := by
  intro n hn
  simp at hn

theorem isShortStart_of_bullet? {cs : List Char} {mark : Char} {number : Option Nat} {size : Nat}
    (h : bullet? cs = some (mark, number, size)) : IsShortStart number := by
  cases cs with
  | nil => exact absurd h (by simp [bullet?])
  | cons c cs =>
    simp only [bullet?] at h
    split at h
    · simp only [Option.some.injEq, Prod.mk.injEq] at h
      rw [← h.2.1]
      exact isShortStart_none
    · split at h
      · split at h
        · rename_i hsize
          simp only [Option.some.injEq, Prod.mk.injEq] at h
          obtain ⟨_, rfl, _⟩ := h
          intro n hn
          rw [Option.mem_def, Option.some.injEq] at hn
          subst hn
          have hdigits := List.all_eq_true.1 (List.all_takeWhile (l := c :: cs) (p := Tag.isDigit))
          have hlt := foldl_digits_lt _ hdigits Nat.zero_lt_one
          rw [Nat.one_mul] at hlt
          have hten : 0 < 10 := by decide
          have hlimit : Nat.pow 10 ((c :: cs).takeWhile Tag.isDigit).length ≤ Nat.pow 10 9 :=
            Nat.pow_le_pow_right hten hsize.2.1
          exact Nat.lt_of_lt_of_le hlt hlimit
        · exact absurd h (by simp)
      · exact absurd h (by simp)

theorem bullet?_of_marker? {inParagraph : Bool} {l : Line} {m : Marker}
    (h : marker? inParagraph l = some m) :
    ∃ mark size, bullet? l.text = some (mark, m.number, size) := by
  unfold marker? at h
  split at h
  · exact absurd h (by simp)
  · rename_i mark number size hbullet
    refine ⟨mark, size, ?_⟩
    dsimp only at h
    -- Every way through either gives no marker or one with this number.
    repeat' split at h
    all_goals first
      | contradiction
      | (rw [← Option.some.inj h]; exact hbullet)

theorem isShortStart_of_marker? {inParagraph : Bool} {l : Line} {m : Marker}
    (h : marker? inParagraph l = some m) : IsShortStart m.number := by
  obtain ⟨mark, size, hbullet⟩ := bullet?_of_marker? h
  exact isShortStart_of_bullet? hbullet

namespace Outline

/-! ### Closing -/

theorem isShort_place {b : Block} {frames : List Frame} {blocks : List Block}
    (hframes : ∀ f ∈ frames, f.IsShort) (hblocks : Block.AllShort blocks) (hb : b.IsShort) :
    (∀ f ∈ (place b frames blocks).1, f.IsShort) ∧ Block.AllShort (place b frames blocks).2 := by
  match frames, hframes with
  | [], _ => exact ⟨by simp [place], hb, hblocks⟩
  | .item width own :: rest, hframes =>
    obtain ⟨hown, hrest⟩ := List.forall_mem_cons.1 hframes
    exact ⟨List.forall_mem_cons.2 ⟨⟨hb, hown⟩, hrest⟩, hblocks⟩
  | .quote takes :: rest, hframes => exact ⟨hframes, hblocks⟩
  | .list mark start items :: rest, hframes => exact ⟨hframes, hblocks⟩

theorem isShort_add {o : Outline} {b : Block} (h : o.IsShort) (hb : b.IsShort) :
    (o.add b).IsShort :=
  isShort_place h.1 h.2 hb

theorem isShort_closeLeaf {o : Outline} (h : o.IsShort) : o.closeLeaf.IsShort := by
  unfold closeLeaf
  split
  · dsimp only
    split
    · exact h
    · exact isShort_add h trivial
  · exact h

theorem isShort_closeFrame {o : Outline} (h : o.IsShort) : o.closeFrame.IsShort := by
  unfold closeFrame
  split
  · exact h
  · rename_i takes rest hf
    obtain ⟨hframes, hblocks⟩ := h
    rw [hf] at hframes
    exact isShort_add ⟨(List.forall_mem_cons.1 hframes).2, hblocks⟩ trivial
  · rename_i mark start items rest hf
    obtain ⟨hframes, hblocks⟩ := h
    rw [hf] at hframes
    obtain ⟨⟨hstart, hitems⟩, hrest⟩ := List.forall_mem_cons.1 hframes
    exact isShort_add ⟨hrest, hblocks⟩ ⟨hstart, Block.itemsShort_reverse.2 hitems⟩
  · rename_i width blocks mark start items rest hf
    obtain ⟨hframes, hblocks⟩ := h
    rw [hf] at hframes
    obtain ⟨hitem, hrest⟩ := List.forall_mem_cons.1 hframes
    obtain ⟨⟨hstart, hitems⟩, hrest⟩ := List.forall_mem_cons.1 hrest
    exact ⟨List.forall_mem_cons.2 ⟨⟨hstart, Block.allShort_reverse.2 hitem, hitems⟩, hrest⟩, hblocks⟩
  · rename_i width blocks rest _ hf
    obtain ⟨hframes, hblocks⟩ := h
    rw [hf] at hframes
    exact ⟨(List.forall_mem_cons.1 hframes).2, hblocks⟩

theorem isShort_closeFrames (count : Nat) {o : Outline} (h : o.IsShort) :
    (closeFrames count o).IsShort := by
  induction count generalizing o with
  | zero => exact h
  | succ count ih => exact ih (isShort_closeFrame h)

theorem isShort_closeTo {o : Outline} (keep : Nat) (h : o.IsShort) : (o.closeTo keep).IsShort := by
  unfold closeTo
  split
  · exact isShort_closeFrames _ (isShort_closeLeaf h)
  · exact h

theorem isShort_closeList {o : Outline} (h : o.IsShort) : o.closeList.IsShort := by
  unfold closeList
  split
  · exact isShort_closeFrame h
  · exact h

theorem allShort_finish {o : Outline} (h : o.IsShort) : Block.AllShort o.finish.1 :=
  Block.allShort_reverse.2 (isShort_closeFrames _ (isShort_closeLeaf h)).2

/-! ### Lines -/

theorem isShort_addText {o : Outline} (l : Line) (h : o.IsShort) : (o.addText l).IsShort := by
  unfold addText
  split
  · split
    · dsimp only
      split
      · exact h
      · exact isShort_add h trivial
    · exact h
  · split <;> exact h
  · split <;> exact h
  · split
    · exact h
    · split
      · exact isShort_add (isShort_closeList h) trivial
      · exact isShort_closeList h

theorem isShort_interrupt {o : Outline} (matched : Nat) (h : o.IsShort) :
    (o.interrupt matched).IsShort :=
  isShort_closeLeaf (isShort_closeTo matched h)

theorem isShort_openItem {o : Outline} {m : Marker} (h : o.IsShort) (hm : IsShortStart m.number) :
    (o.openItem m).IsShort := by
  unfold openItem
  split
  · rename_i mark start items rest hf
    have hall := h.1
    rw [hf] at hall
    split
    · exact ⟨List.forall_mem_cons.2 ⟨trivial, hall⟩, h.2⟩
    · have hclosed := isShort_closeFrame h
      exact ⟨List.forall_mem_cons.2 ⟨trivial, List.forall_mem_cons.2 ⟨⟨hm, trivial⟩, hclosed.1⟩⟩,
        hclosed.2⟩
  · exact ⟨List.forall_mem_cons.2 ⟨trivial, List.forall_mem_cons.2 ⟨⟨hm, trivial⟩, h.1⟩⟩, h.2⟩

/-- What is left of a line keeps first numbers short: each container that it opens does, and so
does the leaf behind them. -/
theorem isShort_startBlocks (fuel : Nat) {o : Outline} (matched : Nat) (l : Line) (h : o.IsShort) :
    (startBlocks fuel o matched l).IsShort := by
  induction fuel generalizing o matched l with
  | zero => exact h
  | succ fuel ih =>
    have hinner : (o.interrupt matched).closeList.IsShort :=
      isShort_closeList (isShort_interrupt matched h)
    have hother : ((o.interrupt matched).closeList.add .other).IsShort := isShort_add hinner trivial
    have hloose : ((o.closeTo (o.looselyMatched matched)).addText l).IsShort :=
      isShort_addText l (isShort_closeTo _ h)
    have htext : (o.addText l).IsShort := isShort_addText l h
    unfold startBlocks
    dsimp only
    split
    · split
      · exact isShort_closeTo matched h
      · exact hloose
    · split
      · exact ih _ _ ⟨List.forall_mem_cons.2 ⟨trivial, hinner.1⟩, hinner.2⟩
      · split
        · exact hother
        · split
          · exact hother
          · split
            · exact hother
            · refine iteInduction (fun _ => htext) fun _ => ?_
              split
              · exact hother
              · split
                · rename_i m hm
                  exact ih _ _ (isShort_openItem (isShort_interrupt matched h)
                    (isShortStart_of_marker? hm))
                · exact hloose

theorem isShort_readBlank {o : Outline} (matched : Nat) (l : Line) (h : o.IsShort) :
    (o.readBlank matched l).IsShort := by
  have hclosed := isShort_closeTo matched h
  unfold readBlank
  dsimp only
  split
  · exact isShort_addText l hclosed
  · exact isShort_closeLeaf hclosed
  · exact hclosed
  · exact isShort_closeLeaf hclosed

theorem isShort_readRest {o : Outline} (matched : Nat) (l : Line) (h : o.IsShort) :
    (o.readRest matched l).IsShort := by
  unfold readRest
  split
  · exact isShort_readBlank matched l h
  · split
    · split
      · exact isShort_addText l h
      · exact isShort_addText l h
      · exact isShort_startBlocks _ matched l h
    · exact isShort_startBlocks _ matched l h

theorem isShort_readLine {o : Outline} (cs : List Char) (h : o.IsShort) : (o.readLine cs).IsShort := by
  unfold readLine
  dsimp only
  split
  · exact isShort_addText _ h
  · exact isShort_readRest _ _ h

theorem isShort_foldl_readLine (lines : List (List Char)) {o : Outline} (h : o.IsShort) :
    (lines.foldl readLine o).IsShort := by
  induction lines generalizing o with
  | nil => exact h
  | cons line rest ih => exact ih (isShort_readLine line h)

end Outline

/-- All lists of a source have short first numbers. -/
theorem allShort_readBlocks (source : List Char) : Block.AllShort (readBlocks source).1 :=
  Outline.allShort_finish (Outline.isShort_foldl_readLine _ ⟨by simp, trivial⟩)

end Vitae.Markdown
