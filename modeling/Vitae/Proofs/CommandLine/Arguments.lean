import Vitae.CommandLine.Arguments
import Vitae.Compile
import Vitae.Proofs.Results

/-!
# What a command line asks for

Taking the words one by one comes to the same as reading off the items of the command line, which
are its input and its options with their values, and letting each have its effect in turn. So the
last value of an option counts, and what the environment says counts where there is none.
-/

namespace Vitae.CommandLine

/-! ### Items -/

inductive Item where
  | input (text : String)
  | option (switch : Switch) (value : Option String)
  deriving DecidableEq, Repr

/-- The items that words stand for: a plain word behind an option that needs a value is that value,
any other is the input. -/
def items : List Word → List Item
  | [] => []
  | .option s none :: .plain value :: rest =>
    if s.takesValue then .option s (some value) :: items rest
    else .option s none :: .input value :: items rest
  | .option s value :: rest => .option s value :: items rest
  | .plain text :: rest => .input text :: items rest
  | _ :: rest => items rest

theorem items_value {s : Switch} (h : s.takesValue = true) (value : String) (rest : List Word) :
    items (.option s none :: .plain value :: rest) = .option s (some value) :: items rest := by
  rw [items, if_pos h]

theorem items_flag {s : Switch} (h : s.takesValue = false) (rest : List Word) :
    items (.option s none :: rest) = .option s none :: items rest := by
  cases rest with
  | nil => rfl
  | cons word rest =>
    cases word with
    | plain text => simp [items, h]
    | _ => rfl

namespace Item

def input? : Item → Option String
  | .input text => some text
  | .option _ _ => none

def value? (s : Switch) : Item → Option String
  | .option other (some value) => if other = s then some value else none
  | _ => none

end Item

/-- The value that is given for an option: of several the last. -/
def given (s : Switch) (words : List Word) : Option String :=
  ((items words).filterMap (Item.value? s)).getLast?

def isOn (s : Switch) (words : List Word) : Bool := (items words).contains (.option s none)

/-! ### The effect of an item -/

namespace Arguments

/-- What one item does to the arguments. -/
inductive Takes (a : Arguments) : Item → Arguments → Prop
  | input (h : a.input = none) (text : String) : Takes a (.input text) { a with input := some text }
  | source {value : String} (h : value ∈ ["markdown", "tree"]) :
    Takes a (.option .source (some value)) { a with source := value }
  | target {value : String} (h : value ∈ ["html", "latex", "tree"]) :
    Takes a (.option .target (some value)) { a with target := value }
  | out (value : String) : Takes a (.option .out (some value)) { a with out := some value }
  | linkUnderline : Takes a (.option .linkUnderline none) { a with linkUnderline := true }
  | cventry : Takes a (.option .cventry none) { a with cventry := true }
  | indent {value : String} {n : Int} (h : Text.integer? value.toList = some n) :
    Takes a (.option .indent (some value)) { a with indent := some n }
  | config (value : String) : Takes a (.option .config (some value)) { a with config := some value }
  | logLevel {value : String} (h : upper value ∈ Log.Level.all.map Log.Level.name) :
    Takes a (.option .logLevel (some value)) { a with logLevel := upper value }
  | logFile (value : String) :
    Takes a (.option .logFile (some value)) { a with logFile := some value }
  | trace : Takes a (.option .trace none) { a with trace := true }

inductive TakesAll : Arguments → List Item → Arguments → Prop
  | nil (a : Arguments) : TakesAll a [] a
  | cons {a b c : Arguments} {item : Item} {rest : List Item} (h : Takes a item b)
    (hrest : TakesAll b rest c) : TakesAll a (item :: rest) c

theorem choose_eq_ok_iff {s : Switch} {value chosen : String} {choices : List String} :
    choose s value choices = .ok chosen ↔ value ∈ choices ∧ chosen = value := by
  unfold choose
  by_cases h : value ∈ choices
  · simp [h, eq_comm]
  · simp [h]

theorem bind_choose_eq_ok {s : Switch} {value : String} {choices : List String}
    {f : String → Arguments} {b : Arguments}
    (h : (do .ok (f (← choose s value choices)) : Except Stop Arguments) = .ok b) :
    value ∈ choices ∧ b = f value := by
  obtain ⟨chosen, hchoose, hb⟩ := bind_eq_ok_iff.1 h
  obtain ⟨hmem, rfl⟩ := choose_eq_ok_iff.1 hchoose
  cases hb
  exact ⟨hmem, rfl⟩

theorem takes_of_assign {a b : Arguments} {s : Switch} {value : String}
    (h : a.assign s value = .ok b) : a.Takes (.option s (some value)) b := by
  cases s with
  | source =>
    obtain ⟨hmem, rfl⟩ := bind_choose_eq_ok (f := fun v => { a with source := v }) h
    exact .source hmem
  | target =>
    obtain ⟨hmem, rfl⟩ := bind_choose_eq_ok (f := fun v => { a with target := v }) h
    exact .target hmem
  | logLevel =>
    obtain ⟨hmem, rfl⟩ := bind_choose_eq_ok (f := fun v => { a with logLevel := v }) h
    exact .logLevel hmem
  | indent =>
    rw [assign] at h
    split at h
    · rename_i n hn
      cases h
      exact .indent hn
    · cases h
  | out =>
    cases h
    exact .out value
  | config =>
    cases h
    exact .config value
  | logFile =>
    cases h
    exact .logFile value
  | help => cases h
  | linkUnderline => cases h
  | cventry => cases h
  | trace => cases h
  | version => cases h

theorem takes_of_turnOn {a b : Arguments} {s : Switch} (h : a.turnOn s = .ok b) :
    a.Takes (.option s none) b := by
  cases s with
  | linkUnderline =>
    cases h
    exact .linkUnderline
  | cventry =>
    cases h
    exact .cventry
  | trace =>
    cases h
    exact .trace
  | _ => cases h

variable {a b : Arguments} {item : Item} {taken : List Item}

theorem Takes.inputs (h : a.Takes item b) :
    b.input.toList = a.input.toList ++ item.input?.toList := by
  cases h with
  | input h text => simp [h, Item.input?]
  | _ => simp [Item.input?]

theorem Takes.hasInput_of_option {s : Switch} {value : Option String}
    (h : a.Takes (.option s value) b) : b.input = a.input := by
  cases h <;> rfl

namespace TakesAll

theorem append {c : Arguments} {others : List Item} (h : a.TakesAll taken b)
    (h' : b.TakesAll others c) : a.TakesAll (taken ++ others) c := by
  induction h with
  | nil a => exact h'
  | cons h hrest ih => exact .cons h (ih h')

theorem inputs (h : a.TakesAll taken b) :
    b.input.toList = a.input.toList ++ taken.filterMap Item.input? := by
  induction h with
  | nil a => simp
  | @cons a b c item rest h hrest ih =>
    rw [ih, h.inputs, List.append_assoc]
    cases hitem : item.input? with
    | none => simp [hitem]
    | some text => simp [hitem]

/-- What the last value of an option says is what its field holds. -/
theorem last {β : Type} (h : a.TakesAll taken b) (field : Arguments → β) (s : Switch)
    (f : String → β)
    (hfield : ∀ {a b : Arguments} {item : Item}, a.Takes item b →
      field b = ((item.value? s).map f).getD (field a)) :
    field b = (((taken.filterMap (Item.value? s)).getLast?).map f).getD (field a) := by
  induction h with
  | nil a => rfl
  | @cons a b c item rest h hrest ih =>
    rw [ih, hfield h]
    cases hitem : item.value? s with
    | none => simp [hitem]
    | some value =>
      rw [List.filterMap_cons_some hitem, List.getLast?_cons]
      cases (rest.filterMap (Item.value? s)).getLast? <;> rfl

/-- A field that is empty at first holds the last value itself. -/
theorem kept (h : a.TakesAll taken b) (field : Arguments → Option String) (s : Switch)
    (hnone : field a = none)
    (hfield : ∀ {a b : Arguments} {item : Item}, a.Takes item b →
      field b = ((item.value? s).map some).getD (field a)) :
    field b = (taken.filterMap (Item.value? s)).getLast? := by
  rw [h.last field s some hfield, hnone]
  cases (taken.filterMap (Item.value? s)).getLast? <;> rfl

theorem flag (h : a.TakesAll taken b) (field : Arguments → Bool) (s : Switch)
    (hfield : ∀ {a b : Arguments} {item : Item}, a.Takes item b →
      field b = (field a || item == .option s none)) :
    field b = (field a || taken.contains (.option s none)) := by
  induction h with
  | nil a => simp
  | @cons a b c item rest h hrest ih =>
    rw [ih, hfield h, List.contains_cons, Bool.or_assoc, BEq.comm]

theorem exists_takes (h : a.TakesAll taken b) : ∀ item ∈ taken, ∃ c d, Takes c item d := by
  induction h with
  | nil a => simp
  | @cons a b c item rest h hrest ih =>
    intro other hother
    rcases List.mem_cons.1 hother with rfl | hmem
    · exact ⟨a, b, h⟩
    · exact ih other hmem

end TakesAll

end Arguments

/-! ### Taking the words -/

namespace Taken

variable {t t' : Taken}

/-- The words still to be taken, with the option in front that waits for its value. -/
def ahead (t : Taken) (words : List Word) : List Word :=
  t.awaiting.toList.map (Word.option · none) ++ words

structure Sound (t : Taken) : Prop where
  hasInput : t.hasInput = t.arguments.input.isSome
  awaiting : ∀ s ∈ t.awaiting, s.takesValue = true
  asksHelp : t.asksHelp = false

/-- One word more: the items ahead are those that were taken with it and those ahead of the rest. -/
structure Goes (t : Taken) (word : Word) (t' : Taken) (taken : List Item) : Prop where
  sound : t'.Sound
  ahead : ∀ rest, items (t.ahead (word :: rest)) = taken ++ items (t'.ahead rest)
  takes : t.arguments.TakesAll taken t'.arguments

theorem leave_leftOver_ne_nil (t : Taken) (word : String) : (t.leave word).leftOver ≠ [] :=
  List.append_ne_nil_of_right_ne_nil _ (List.cons_ne_nil word [])

/-- An option has its effect, and no option waits for its value afterwards. -/
theorem goes_ask {s : Switch} {value : Option String} {word : Word} {b : Arguments}
    (hsound : t.Sound) (htakes : t.arguments.Takes (.option s value) b)
    (hitems : ∀ rest, items (t.ahead (word :: rest)) = .option s value :: items rest) :
    t.Goes word (t.ask b) [.option s value] where
  sound := {
    hasInput := hsound.hasInput.trans (by rw [ask, htakes.hasInput_of_option])
    awaiting := nofun
    asksHelp := hsound.asksHelp }
  ahead := hitems
  takes := .cons htakes (.nil b)

theorem goes_of_step_awaiting {s : Switch} {word : Word} (hsound : t.Sound)
    (hawait : t.awaiting = some s) (h : t.step word = .ok t') : ∃ taken, t.Goes word t' taken := by
  cases word with
  | plain value =>
    simp only [step, hawait, hsound.asksHelp] at h
    obtain ⟨b, hassign, rfl⟩ := map_eq_ok_iff.1 h
    refine ⟨_, goes_ask hsound (Arguments.takes_of_assign hassign) fun rest => ?_⟩
    rw [ahead, hawait]
    exact items_value (hsound.awaiting s hawait) value rest
  | _ => simp [step, hawait] at h

theorem ahead_of_awaiting_eq_none (hawait : t.awaiting = none) (words : List Word) :
    t.ahead words = words := by
  rw [ahead, hawait]
  rfl

theorem goes_input {text : String} (hsound : t.Sound) (hawait : t.awaiting = none)
    (hinput : t.hasInput = false) : t.Goes (.plain text) (t.input text) [.input text] where
  sound := ⟨rfl, hsound.awaiting, hsound.asksHelp⟩
  ahead rest := by
    have hawait' : (t.input text).awaiting = none := hawait
    rw [ahead_of_awaiting_eq_none hawait, ahead_of_awaiting_eq_none hawait']
    rfl
  takes := by
    have hnone : t.arguments.input = none := by
      have hsome := hsound.hasInput.symm.trans hinput
      exact Option.isNone_iff_eq_none.1 (by simpa using hsome)
    exact .cons (.input hnone text) (.nil _)

theorem goes_of_step_option {s : Switch} {value : Option String} (hsound : t.Sound)
    (hawait : t.awaiting = none) (h : t.step (.option s value) = .ok t') :
    ∃ taken, t.Goes (.option s value) t' taken := by
  cases value with
  | some value =>
    simp only [step, hawait] at h
    obtain ⟨b, hassign, rfl⟩ := map_eq_ok_iff.1 h
    refine ⟨_, goes_ask hsound (Arguments.takes_of_assign hassign) fun rest => ?_⟩
    rw [ahead_of_awaiting_eq_none hawait]
    rfl
  | none =>
    simp only [step, hawait] at h
    by_cases hvalue : s.takesValue = true
    · rw [if_pos hvalue] at h
      cases h
      refine ⟨[], ⟨hsound.hasInput, ?_, hsound.asksHelp⟩, fun rest => ?_, .nil _⟩
      · rintro _ ⟨⟩
        exact hvalue
      · rw [ahead_of_awaiting_eq_none hawait]
        rfl
    · rw [if_neg hvalue] at h
      obtain ⟨b, hturn, rfl⟩ := map_eq_ok_iff.1 h
      refine ⟨_, goes_ask hsound (Arguments.takes_of_turnOn hturn) fun rest => ?_⟩
      rw [ahead_of_awaiting_eq_none hawait]
      exact items_flag (Bool.eq_false_iff.2 hvalue) rest

/-- Where nothing is left over, a step takes the items that its word completes, unless help is given
once an option has its value. -/
theorem goes_of_step {word : Word} (hsound : t.Sound) (h : t.step word = .ok t')
    (hleft : t'.leftOver = []) (hhelp : t'.asksHelp = false) : ∃ taken, t.Goes word t' taken := by
  cases hawait : t.awaiting with
  | some s => exact goes_of_step_awaiting hsound hawait h
  | none =>
    cases word with
    | plain text =>
      simp only [step, hawait] at h
      cases hinput : t.hasInput with
      | false =>
        rw [hinput] at h
        cases h
        exact ⟨_, goes_input hsound hawait hinput⟩
      | true =>
        rw [hinput] at h
        cases h
        exact absurd hleft (t.leave_leftOver_ne_nil text)
    | separator =>
      simp only [step, hawait] at h
      split at h
      · cases h
        exact absurd hleft (t.leave_leftOver_ne_nil "--")
      · cases h
        refine ⟨[], ⟨hsound.hasInput, nofun, hsound.asksHelp⟩, fun rest => ?_, .nil _⟩
        rw [ahead_of_awaiting_eq_none hawait]
        rfl
    | unknown text =>
      simp only [step, hawait] at h
      cases h
      exact absurd hleft (t.leave_leftOver_ne_nil text)
    | helpBefore s =>
      simp only [step, hawait] at h
      cases h
      cases hhelp
    | option s value => exact goes_of_step_option hsound hawait h

/-- What is left over stays so, and help is not asked for by a step unless an option then waits. -/
theorem keeps_of_step {word : Word} (h : t.step word = .ok t') :
    t.leftOver <+: t'.leftOver ∧ (t'.asksHelp = t.asksHelp ∨ t'.awaiting ≠ none) := by
  unfold step at h
  split at h
  · split at h
    · cases h
    · obtain ⟨b, hassign, rfl⟩ := map_eq_ok_iff.1 h
      exact ⟨List.prefix_rfl, Or.inl rfl⟩
  · cases h
  · split at h
    · cases h
      exact ⟨List.prefix_append t.leftOver _, Or.inl rfl⟩
    · cases h
      exact ⟨List.prefix_rfl, Or.inl rfl⟩
  · split at h
    · cases h
      exact ⟨List.prefix_append t.leftOver _, Or.inl rfl⟩
    · cases h
      exact ⟨List.prefix_rfl, Or.inl rfl⟩
  · cases h
    exact ⟨List.prefix_append t.leftOver _, Or.inl rfl⟩
  · cases h
    exact ⟨List.prefix_rfl, Or.inr nofun⟩
  · obtain ⟨b, hassign, rfl⟩ := map_eq_ok_iff.1 h
    exact ⟨List.prefix_rfl, Or.inl rfl⟩
  · split at h
    · cases h
      exact ⟨List.prefix_rfl, Or.inl rfl⟩
    · obtain ⟨b, hturn, rfl⟩ := map_eq_ok_iff.1 h
      exact ⟨List.prefix_rfl, Or.inl rfl⟩

theorem leftOver_of_foldlM {words : List Word} (h : words.foldlM step t = .ok t') :
    t.leftOver <+: t'.leftOver := by
  induction words generalizing t with
  | nil =>
    cases h
    exact List.prefix_rfl
  | cons word words ih =>
    obtain ⟨next, hstep, hrest⟩ := foldlM_cons_eq_ok_iff.1 h
    exact (keeps_of_step hstep).1.trans (ih hrest)

/-- While help waits for an option to have its value no words lead further. -/
theorem asksHelp_of_foldlM {words : List Word} (hwaits : t.asksHelp = true → t.awaiting ≠ none)
    (h : words.foldlM step t = .ok t') (hawait : t'.awaiting = none) : t.asksHelp = false := by
  cases hhelp : t.asksHelp with
  | false => rfl
  | true =>
    obtain ⟨s, hs⟩ := Option.ne_none_iff_exists'.1 (hwaits hhelp)
    cases words with
    | nil =>
      cases h
      exact absurd hawait (hwaits hhelp)
    | cons word words =>
      obtain ⟨next, hstep, -⟩ := foldlM_cons_eq_ok_iff.1 h
      cases word <;> simp [step, hs, hhelp] at hstep

/-- The items ahead are taken, if in the end no option waits and nothing is left over. -/
theorem takesAll_of_foldlM {words : List Word} (hsound : t.Sound)
    (h : words.foldlM step t = .ok t') (hleft : t'.leftOver = []) (hawait : t'.awaiting = none) :
    t.arguments.TakesAll (items (t.ahead words)) t'.arguments := by
  -- `ahead` puts an option that waits back in front, so that no word is ever read out of its place
  induction words generalizing t with
  | nil =>
    cases h
    rw [ahead_of_awaiting_eq_none hawait]
    exact .nil _
  | cons word words ih =>
    obtain ⟨next, hstep, hrest⟩ := foldlM_cons_eq_ok_iff.1 h
    have hnext : next.leftOver = [] := List.prefix_nil.1 (hleft ▸ leftOver_of_foldlM hrest)
    have hwaits : next.asksHelp = true → next.awaiting ≠ none := fun hhelp =>
      (keeps_of_step hstep).2.resolve_left (by simp [hhelp, hsound.asksHelp])
    have hhelp := asksHelp_of_foldlM hwaits hrest hawait
    obtain ⟨taken, hgoes⟩ := goes_of_step hsound hstep hnext hhelp
    rw [hgoes.ahead words]
    exact hgoes.takes.append (ih hgoes.sound hrest)

end Taken

/-! ### Command lines -/

theorem takesAll_of_parseArguments {environment : List (String × String)} {words : List String}
    {a : Arguments} (h : parseArguments environment words = .ok a) :
    ∃ ws, classifyAll words = .ok ws ∧
      (Arguments.default environment).TakesAll (items ws) a := by
  obtain ⟨ws, hwords, hrest⟩ := bind_eq_ok_iff.1 h
  obtain ⟨taken, htaken, hfinish⟩ := bind_eq_ok_iff.1 hrest
  have hsound : Taken.Sound { arguments := .default environment } := ⟨rfl, nofun, rfl⟩
  refine ⟨ws, hwords, ?_⟩
  rw [Taken.finish] at hfinish
  split at hfinish
  · cases hfinish
  · rename_i hawait
    split at hfinish
    · rename_i hleft
      cases hfinish
      exact Taken.takesAll_of_foldlM hsound htaken (List.isEmpty_iff.1 hleft) hawait
    · cases hfinish

theorem mem_of_given {s : Switch} {words : List Word} {value : String}
    (h : given s words = some value) : .option s (some value) ∈ items words := by
  obtain ⟨item, hmem, hvalue⟩ := List.mem_filterMap.1 (List.mem_of_getLast? h)
  cases item with
  | input text => simp [Item.value?] at hvalue
  | option other found =>
    cases found with
    | none => simp [Item.value?] at hvalue
    | some found =>
      obtain ⟨rfl, rfl⟩ : other = s ∧ found = value := by simpa [Item.value?] using hvalue
      exact hmem

/-- What words of a command line ask for in an environment: each option has the value that is given
for it last. Without one the environment says the formats, or else they are Markdown and HTML. -/
structure Arguments.Obeys (environment : List (String × String)) (words : List Word)
    (a : Arguments) : Prop where
  input : (items words).filterMap Item.input? = a.input.toList
  source : a.source = (given .source words).getD
    ((environment.lookup "RESUMARK_FROM").getD "markdown")
  target : a.target = (given .target words).getD ((environment.lookup "RESUMARK_TO").getD "html")
  out : a.out = given .out words
  linkUnderline : a.linkUnderline = isOn .linkUnderline words
  cventry : a.cventry = isOn .cventry words
  indent : a.indent = (given .indent words).bind fun value => Text.integer? value.toList
  config : a.config = given .config words
  logLevel : a.logLevel = upper ((given .logLevel words).getD
    ((environment.lookup "RESUMARK_LOG_LEVEL").getD "WARNING"))
  logFile : a.logFile = given .logFile words
  trace : a.trace = isOn .trace words
  knownSource : ∀ value ∈ given .source words, value ∈ SourceFormat.names
  knownTarget : ∀ value ∈ given .target words, value ∈ TargetFormat.names
  knownLevel : ∀ value ∈ given .logLevel words, upper value ∈ Log.Level.all.map Log.Level.name

theorem obeys_of_takesAll {environment : List (String × String)} {words : List Word}
    {a : Arguments} (h : (Arguments.default environment).TakesAll (items words) a) :
    a.Obeys environment words where
  input := h.inputs.symm
  source := by
    have hlast := h.last Arguments.source .source id fun h => by cases h <;> rfl
    rwa [Option.map_id_fun, id] at hlast
  target := by
    have hlast := h.last Arguments.target .target id fun h => by cases h <;> rfl
    rwa [Option.map_id_fun, id] at hlast
  out := h.kept Arguments.out .out rfl fun h => by cases h <;> rfl
  linkUnderline := h.flag Arguments.linkUnderline .linkUnderline fun h => by cases h <;> simp
  cventry := h.flag Arguments.cventry .cventry fun h => by cases h <;> simp
  indent := by
    have hlast := h.last Arguments.indent .indent (fun value => Text.integer? value.toList)
      fun h => by
        cases h with
        | indent h => simp [Item.value?, h]
        | _ => rfl
    rw [hlast, given]
    cases ((items words).filterMap (Item.value? .indent)).getLast? <;> rfl
  config := h.kept Arguments.config .config rfl fun h => by cases h <;> rfl
  logLevel := by
    have hlast := h.last Arguments.logLevel .logLevel upper fun h => by cases h <;> rfl
    rw [hlast, given]
    cases ((items words).filterMap (Item.value? .logLevel)).getLast? <;> rfl
  logFile := h.kept Arguments.logFile .logFile rfl fun h => by cases h <;> rfl
  trace := h.flag Arguments.trace .trace fun h => by cases h <;> simp
  knownSource := by
    intro value hgiven
    obtain ⟨b, c, htakes⟩ := h.exists_takes _ (mem_of_given hgiven)
    cases htakes with
    | source hmem => exact hmem
  knownTarget := by
    intro value hgiven
    obtain ⟨b, c, htakes⟩ := h.exists_takes _ (mem_of_given hgiven)
    cases htakes with
    | target hmem => exact hmem
  knownLevel := by
    intro value hgiven
    obtain ⟨b, c, htakes⟩ := h.exists_takes _ (mem_of_given hgiven)
    cases htakes with
    | logLevel hmem => exact hmem

theorem obeys_of_parseArguments {environment : List (String × String)} {words : List String}
    {a : Arguments} (h : parseArguments environment words = .ok a) :
    ∃ ws, classifyAll words = .ok ws ∧ a.Obeys environment ws := by
  obtain ⟨ws, hwords, htakes⟩ := takesAll_of_parseArguments h
  exact ⟨ws, hwords, obeys_of_takesAll htakes⟩

/-- A format that there is not can only come from the environment. -/
theorem lookup_of_unknown {environment : List (String × String)} {words : List Word} {s : Switch}
    {key format standard : String} {names : List String}
    (hformat : format = (given s words).getD ((environment.lookup key).getD standard))
    (hknown : ∀ value ∈ given s words, value ∈ names) (hstandard : standard ∈ names)
    (hunknown : format ∉ names) :
    given s words = none ∧ environment.lookup key = some format := by
  cases hgiven : given s words with
  | some value =>
    rw [hgiven, Option.getD_some] at hformat
    exact absurd (hformat ▸ hknown value hgiven) hunknown
  | none =>
    rw [hgiven, Option.getD_none] at hformat
    cases hlookup : environment.lookup key with
    | some value =>
      rw [hlookup, Option.getD_some] at hformat
      exact ⟨rfl, congrArg some hformat.symm⟩
    | none =>
      rw [hlookup, Option.getD_none] at hformat
      exact absurd (hformat ▸ hstandard) hunknown

/-- The threshold that the level sets, unless it is no level. -/
def Arguments.threshold (a : Arguments) : Except Failure Int :=
  Log.thresholdOf (Log.levelOf a.logLevel)

theorem exists_threshold_of_known {name : String} (h : name ∈ Log.Level.all.map Log.Level.name) :
    ∃ threshold, Log.thresholdOf (Log.levelOf name) = .ok threshold := by
  obtain ⟨level, -, rfl⟩ := List.mem_map.1 h
  cases level <;> exact ⟨_, rfl⟩

namespace Arguments.Obeys

variable {environment : List (String × String)} {words : List Word} {a : Arguments}

theorem lookup_of_source (h : a.Obeys environment words) (hunknown : a.source ∉ SourceFormat.names) :
    given .source words = none ∧ environment.lookup "RESUMARK_FROM" = some a.source :=
  lookup_of_unknown h.source h.knownSource (List.mem_cons_self ..) hunknown

theorem lookup_of_target (h : a.Obeys environment words) (hunknown : a.target ∉ TargetFormat.names) :
    given .target words = none ∧ environment.lookup "RESUMARK_TO" = some a.target :=
  lookup_of_unknown h.target h.knownTarget (List.mem_cons_self ..) hunknown

/-- What is no level can only come from the environment. -/
theorem lookup_of_level (h : a.Obeys environment words)
    (hnone : ∀ threshold, a.threshold ≠ .ok threshold) :
    given .logLevel words = none ∧ ∃ name, environment.lookup "RESUMARK_LOG_LEVEL" = some name := by
  have hunknown : a.logLevel ∉ Log.Level.all.map Log.Level.name := fun hknown =>
    (exists_threshold_of_known hknown).elim hnone
  rw [h.logLevel] at hunknown
  cases hgiven : given .logLevel words with
  | some value =>
    rw [hgiven, Option.getD_some] at hunknown
    exact absurd (h.knownLevel value hgiven) hunknown
  | none =>
    rw [hgiven, Option.getD_none] at hunknown
    cases hlookup : environment.lookup "RESUMARK_LOG_LEVEL" with
    | some name => exact ⟨rfl, name, rfl⟩
    | none =>
      rw [hlookup, Option.getD_none] at hunknown
      exact absurd (by decide +kernel) hunknown

end Arguments.Obeys

end Vitae.CommandLine
