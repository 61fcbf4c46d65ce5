import Vitae.Compile
import Vitae.Proofs.Document
import Vitae.Proofs.Latex.Commands

/-!
# What rendered LaTeX says

Lexing and reading a rendered document gives only the renderer's own commands, with braces and
environments closed in their places, and nothing with a meaning in LaTeX unescaped. Line feeds
aside, the running text is the text of the document and the destinations are those of its links.
-/

namespace Vitae

/-! ### What a document asks for -/

def Mark.HasHref : Mark → Prop
  | .link href _ _ => href.IsAttribute
  | _ => True

def Mark.href? : Mark → Option (List Char)
  | .link href _ _ => some href.attributeText
  | _ => none

def withoutFeeds (cs : List Char) : List Char := cs.filter (· ≠ '\n')

theorem withoutFeeds_append (as bs : List Char) :
    withoutFeeds (as ++ bs) = withoutFeeds as ++ withoutFeeds bs := List.filter_append ..

theorem withoutFeeds_singleton {c : Char} (h : c ≠ '\n') : withoutFeeds [c] = [c] :=
  List.filter_cons_of_pos (decide_eq_true h)

namespace Latex

/-! ### Segments -/

def ownWords : List (List Char) :=
  ["begin", "end", "item", "href", "textbf", "textit", "underline", "textbackslash",
    "textasciitilde", "textasciicircum"].map String.toList

def environments : List (List Char) := ["itemize", "enumerate"].map String.toList

def Lexeme.IsQuiet : Lexeme → Prop
  | .char c => c ∉ ['#', '%', '\x7b', '\x7d']
  | .symbol _ => True
  | .word _ => False

def Command.IsOwn : Command → Prop
  | .char c => c ∉ ['$', '&', '#', '_', '~', '^', '%']
  | .begins name => name ∈ environments
  | .ends name => name ∈ environments
  | .href url => ∀ lexeme ∈ url, lexeme.IsQuiet
  | .word name => name ∈ ownWords
  | _ => True

/-- What is open at some place: how many braces, and which environments, the innermost first. -/
structure Level where
  depth : Nat
  opened : List (List Char)

/-- Lexemes that lead from one level to another, and what they say on the way. -/
structure Segment (lexemes : List Lexeme) (before after : Level) (text : List Char)
    (urls : List (List Char)) (found : List Command) : Prop where
  words : ∀ name, .word name ∈ lexemes → name ∈ ownWords
  braces : braces before.depth lexemes = some after.depth
  commands : readerRun .body lexemes = some (found, .body)
  own : ∀ command ∈ found, command.IsOwn
  nested : nest before.opened found = some after.opened
  text : found.filterMap Command.text? = withoutFeeds text
  urls : found.filterMap Command.url? = urls.map withoutFeeds

theorem Segment.append {as bs : List Lexeme} {before middle after : Level} {s t : List Char}
    {us vs : List (List Char)} {found more : List Command} (ha : Segment as before middle s us found)
    (hb : Segment bs middle after t vs more) :
    Segment (as ++ bs) before after (s ++ t) (us ++ vs) (found ++ more) where
  words name hname := (List.mem_append.1 hname).elim (ha.words name) (hb.words name)
  braces := by rw [braces_append bs ha.braces, hb.braces]
  commands := readerRun_append ha.commands hb.commands
  own command hcommand := (List.mem_append.1 hcommand).elim (ha.own command) (hb.own command)
  nested := by rw [nest_append more ha.nested, hb.nested]
  text := by rw [List.filterMap_append, ha.text, hb.text, withoutFeeds_append]
  urls := by rw [List.filterMap_append, ha.urls, hb.urls, List.map_append]

theorem Segment.drop_newline {first rest : List Lexeme} {before after : Level} {text : List Char}
    {urls : List (List Char)} {found : List Command}
    (h : Segment (first ++ .char '\n' :: rest) before after text urls found) :
    Segment (first ++ rest) before after text urls found where
  words name hname := h.words name (by
    rcases List.mem_append.1 hname with hname | hname
    · exact List.mem_append_left _ hname
    · exact List.mem_append_right _ (List.mem_cons_of_mem _ hname))
  braces := by rw [← braces_drop_newline, h.braces]
  commands := readerRun_drop_newline h.commands
  own := h.own
  nested := h.nested
  text := h.text
  urls := h.urls

/-! ### Texts that are segments -/

/-- A text whose lexemes lead from one level to another. -/
def Writes (out : List Char) (before after : Level) (text : List Char) (urls : List (List Char)) :
    Prop :=
  ∃ lexemes found, LexesTo out lexemes ∧ Segment lexemes before after text urls found

theorem Writes.append {as bs : List Char} {before middle after : Level} {s t : List Char}
    {us vs : List (List Char)} (ha : Writes as before middle s us)
    (hb : Writes bs middle after t vs) : Writes (as ++ bs) before after (s ++ t) (us ++ vs) := by
  obtain ⟨lexemes, found, hlex, hsegment⟩ := ha
  obtain ⟨rest, more, hlex', hsegment'⟩ := hb
  exact ⟨_, _, hlex.append hlex', hsegment.append hsegment'⟩

theorem writes_nil (level : Level) : Writes [] level level [] [] :=
  ⟨[], [], rfl, by simp, rfl, rfl, by simp, rfl, rfl, rfl⟩

/-- Closing up changes nothing but line feeds. -/
theorem Writes.closeUp {out : List Char} {before after : Level} {text : List Char}
    {urls : List (List Char)} (h : Writes out before after text urls) :
    Writes (closeUp out) before after text urls := by
  obtain ⟨lexemes, found, hlex, hsegment⟩ := h
  rcases hlex.closeUp with hsame | ⟨first, rest, rfl, hless⟩
  · exact ⟨lexemes, found, hsame, hsegment⟩
  · exact ⟨first ++ rest, found, hless, hsegment.drop_newline⟩

def IsPlain (c : Char) : Prop :=
  c ∉ ['\\', '~', '^', '\x7b', '\x7d', '$', '%', '&', '#', '_']

theorem writes_char {c : Char} (h : IsPlain c) (level : Level) : Writes [c] level level [c] [] := by
  simp only [IsPlain, List.mem_cons, List.not_mem_nil, or_false, not_or] at h
  obtain ⟨hslash, htilde, hcaret, hopen, hclose, hdollar, hpercent, hand, hhash, hline⟩ := h
  refine ⟨[.char c], if c = '\n' then [] else [.char c], lexesTo_char hslash, ?_⟩
  by_cases hfeed : c = '\n'
  · subst hfeed
    exact ⟨by simp, rfl, rfl, by simp, rfl, rfl, rfl⟩
  · rw [if_neg hfeed]
    refine ⟨by simp, ?_, ?_, ?_, rfl, ?_, rfl⟩
    · simp [braces, braceStep, hopen, hclose]
    · simp [readerRun, readerStep, hfeed]
    · simp [Command.IsOwn, htilde, hcaret, hdollar, hpercent, hand, hhash, hline]
    · rw [withoutFeeds_singleton hfeed]
      simp only [List.filterMap_cons, List.filterMap_nil, Command.text?, hopen, hclose, or_self,
        if_false]

theorem writes_symbol {c : Char} (hletter : c.isAlpha = false) (hfeed : c ≠ '\n') (level : Level) :
    Writes ['\\', c] level level [c] [] := by
  refine ⟨[.symbol c], [.symbol c], lexesTo_symbol hletter, by simp, rfl, rfl, ?_, rfl, ?_, rfl⟩
  · simp [Command.IsOwn]
  · rw [withoutFeeds_singleton hfeed]
    rfl

def Level.deeper (level : Level) : Level := ⟨level.depth + 1, level.opened⟩

theorem writes_open (level : Level) : Writes ['\x7b'] level level.deeper [] [] := by
  refine ⟨[.char '\x7b'], [.char '\x7b'], rfl, by simp, rfl, rfl, ?_, rfl, rfl, rfl⟩
  simp [Command.IsOwn]

theorem writes_close (level : Level) : Writes ['\x7d'] level.deeper level [] [] := by
  refine ⟨[.char '\x7d'], [.char '\x7d'], rfl, by simp, rfl, rfl, ?_, rfl, rfl, rfl⟩
  simp [Command.IsOwn]

/-! ### Commands -/

theorem isAlpha_of_mem_ownWords {name : List Char} (h : name ∈ ownWords) :
    (∀ c ∈ name, c.isAlpha = true) ∧ name ≠ [] := by
  have hall : ownWords.all (fun w => w.all Char.isAlpha && !w.isEmpty) = true := by decide
  have hname := List.all_eq_true.1 hall name h
  rw [Bool.and_eq_true, Bool.not_eq_true', List.isEmpty_eq_false_iff] at hname
  exact ⟨List.all_eq_true.1 hname.1, hname.2⟩

theorem withoutFeeds_text?_word (name : List Char) :
    withoutFeeds (Command.word name).text?.toList = (Command.word name).text?.toList := by
  simp only [Command.text?]
  split
  · rfl
  split
  · rfl
  split
  · rfl
  · rfl

theorem writes_word {name : List Char} (hown : name ∈ ownWords)
    (hplain : wordStep name = ([.word name], .body)) (level : Level) :
    Writes ('\\' :: (name ++ ['\x7b'])) level level.deeper
      (Command.word name).text?.toList [] := by
  obtain ⟨hletters, hne⟩ := isAlpha_of_mem_ownWords hown
  refine ⟨_, [.word name, .char '\x7b'], lexesTo_word hletters hne rfl (by decide), ?_, rfl, ?_, ?_,
    rfl, ?_, rfl⟩
  · simpa using hown
  · simp [readerRun, readerStep, hplain]
  · simp [Command.IsOwn, hown]
  · rw [withoutFeeds_text?_word]
    cases htext : (Command.word name).text? <;> simp only [List.filterMap_cons, htext] <;> rfl

theorem Writes.command {body text : List Char} {urls : List (List Char)} {level : Level}
    (h : Writes body level.deeper level.deeper text urls) (name : String)
    (hown : name.toList ∈ ownWords) (hplain : wordStep name.toList = ([.word name.toList], .body)) :
    Writes (command name body) level level
      ((Command.word name.toList).text?.toList ++ text) urls := by
  have hall := (writes_word hown hplain level).append (h.append (writes_close level))
  simpa only [Latex.command, List.cons_append, List.append_assoc, List.nil_append, List.append_nil]
    using hall

/-! ### Escaped text -/

theorem writes_escapeChar (c : Char) (level : Level) :
    Writes (escapeChar c) level level [c] [] := by
  have hword : ∀ (name : String), name.toList ∈ ownWords →
      wordStep name.toList = ([.word name.toList], .body) →
      Writes (command name []) level level ((Command.word name.toList).text?.toList ++ []) [] :=
    fun name hown hplain => (writes_nil level.deeper).command name hown hplain
  unfold escapeChar
  split
  · exact hword "textbackslash" (by decide) (by decide)
  · exact hword "textasciitilde" (by decide) (by decide)
  · exact hword "textasciicircum" (by decide) (by decide)
  · rename_i hslash htilde hcaret
    split
    · rename_i hspecial
      refine writes_symbol ?_ ?_ level
      · rcases hspecial with rfl | rfl | rfl | rfl | rfl | rfl | rfl <;> rfl
      · rintro rfl
        exact absurd hspecial (by decide)
    · rename_i hspecial
      refine writes_char ?_ level
      simp only [not_or] at hspecial
      simp only [IsPlain, List.mem_cons, List.not_mem_nil, or_false, not_or]
      exact ⟨hslash, htilde, hcaret, hspecial⟩

theorem writes_escape (cs : List Char) (level : Level) : Writes (escape cs) level level cs [] := by
  induction cs with
  | nil => exact writes_nil level
  | cons c cs ih => exact (writes_escapeChar c level).append ih

/-! ### Destinations -/

def urlLexeme (c : Char) : Lexeme :=
  if c = '\\' ∨ c = '#' ∨ c = '%' ∨ c = '\x7b' ∨ c = '\x7d' then .symbol c else .char c

theorem lexesTo_escapeUrl (cs : List Char) : LexesTo (escapeUrl cs) (cs.map urlLexeme) := by
  induction cs with
  | nil => rfl
  | cons c cs ih =>
    have hchar : LexesTo (escapeUrlChar c) [urlLexeme c] := by
      unfold escapeUrlChar urlLexeme
      split
      · rename_i hspecial
        refine lexesTo_symbol ?_
        rcases hspecial with rfl | rfl | rfl | rfl | rfl <;> rfl
      · rename_i hspecial
        exact lexesTo_char fun hslash => hspecial (Or.inl hslash)
    exact hchar.append ih

theorem urlLexeme_ne_brace (c : Char) :
    urlLexeme c ≠ .char '\x7b' ∧ urlLexeme c ≠ .char '\x7d' := by
  unfold urlLexeme
  split
  · exact ⟨nofun, nofun⟩
  · rename_i hspecial
    simp only [not_or] at hspecial
    exact ⟨fun heq => hspecial.2.2.2.1 (Lexeme.char.inj heq),
      fun heq => hspecial.2.2.2.2 (Lexeme.char.inj heq)⟩

theorem isQuiet_urlLexeme (c : Char) : (urlLexeme c).IsQuiet := by
  unfold urlLexeme
  split
  · trivial
  · rename_i hspecial
    simp only [not_or] at hspecial
    simp only [Lexeme.IsQuiet, List.mem_cons, List.not_mem_nil, or_false, not_or]
    exact hspecial.2

theorem character?_urlLexeme (c : Char) : (urlLexeme c).character? = some c := by
  unfold urlLexeme
  split <;> rfl

theorem word_not_mem_map_urlLexeme (name cs : List Char) :
    Lexeme.word name ∉ cs.map urlLexeme := by
  intro hname
  obtain ⟨c, _, hc⟩ := List.mem_map.1 hname
  have hquiet := isQuiet_urlLexeme c
  rw [hc] at hquiet
  exact hquiet

theorem braces_map_urlLexeme (depth : Nat) (cs : List Char) :
    braces depth (cs.map urlLexeme) = some depth := by
  induction cs with
  | nil => rfl
  | cons c cs ih =>
    obtain ⟨hopen, hclose⟩ := urlLexeme_ne_brace c
    rw [List.map_cons, braces, braceStep, if_neg hopen, if_neg hclose]
    exact ih

theorem urlLexeme_eq_newline {c : Char} : urlLexeme c = .char '\n' ↔ c = '\n' := by
  unfold urlLexeme
  split
  · rename_i hspecial
    refine ⟨nofun, ?_⟩
    rintro rfl
    exact absurd hspecial (by decide)
  · exact ⟨Lexeme.char.inj, fun heq => congrArg _ heq⟩

theorem readerStep_urlLexeme (depth : Nat) (done : List Lexeme) (c : Char) :
    readerStep (.inUrl depth done) (urlLexeme c) =
      some ([], .inUrl depth (if c = '\n' then done else urlLexeme c :: done)) := by
  obtain ⟨hopen, hclose⟩ := urlLexeme_ne_brace c
  simp only [readerStep, urlStep, hopen, hclose, if_false, urlLexeme_eq_newline]
  split <;> rfl

theorem readerRun_map_urlLexeme (depth : Nat) (done : List Lexeme) (cs : List Char) :
    readerRun (.inUrl depth done) (cs.map urlLexeme) =
      some ([], .inUrl depth (((withoutFeeds cs).map urlLexeme).reverse ++ done)) := by
  induction cs generalizing done with
  | nil => rfl
  | cons c cs ih =>
    rw [List.map_cons, readerRun, readerStep_urlLexeme]
    simp only [bind, Option.bind, ih, withoutFeeds]
    by_cases hfeed : c = '\n'
    · simp [hfeed]
    · simp [hfeed]

theorem writes_href (cs : List Char) (level : Level) :
    Writes (command "href" (escapeUrl cs)) level level [] [cs] := by
  have hlex : LexesTo (command "href" (escapeUrl cs))
      ([.word "href".toList, .char '\x7b'] ++ (cs.map urlLexeme ++ [.char '\x7d'])) := by
    have hclose : LexesTo ['\x7d'] [.char '\x7d'] := rfl
    have hown : "href".toList ∈ ownWords := by decide
    have hletters := isAlpha_of_mem_ownWords hown
    have hword := lexesTo_word (c := '\x7b') hletters.1 hletters.2 rfl (by decide)
    have hall := hword.append ((lexesTo_escapeUrl cs).append hclose)
    simpa only [command, List.cons_append, List.append_assoc, List.nil_append] using hall
  have hurl := readerRun_map_urlLexeme 0 [] cs
  refine ⟨_, [.href ((withoutFeeds cs).map urlLexeme)], hlex, ?_, ?_, ?_, ?_, rfl, rfl, ?_⟩
  · intro name hname
    simp only [List.mem_append, List.mem_cons, List.not_mem_nil, or_false, reduceCtorEq,
      Lexeme.word.injEq] at hname
    rcases hname with rfl | hname
    · decide
    · exact absurd hname (word_not_mem_map_urlLexeme name cs)
  · have hopen : braces level.depth [.word "href".toList, .char '\x7b'] = some (level.depth + 1) := rfl
    rw [braces_append _ hopen, braces_append _ (braces_map_urlLexeme (level.depth + 1) cs)]
    rfl
  · have hopen : readerRun .body [.word "href".toList, .char '\x7b'] = some ([], .inUrl 0 []) := rfl
    have hclose : readerRun (.inUrl 0 (((withoutFeeds cs).map urlLexeme).reverse ++ []))
        [.char '\x7d'] = some ([.href ((withoutFeeds cs).map urlLexeme)], .body) := by
      simp [readerRun, readerStep, urlStep]
    exact readerRun_append hopen (readerRun_append hurl hclose)
  · intro found hfound
    rw [List.mem_singleton.1 hfound]
    intro lexeme hlexeme
    obtain ⟨c, _, rfl⟩ := List.mem_map.1 hlexeme
    exact isQuiet_urlLexeme c
  · have hcharacter : Lexeme.character? ∘ urlLexeme = some := funext character?_urlLexeme
    have hurl : ((withoutFeeds cs).map urlLexeme).filterMap Lexeme.character? =
        withoutFeeds cs := by
      rw [List.filterMap_map, hcharacter, List.filterMap_some]
    simp only [List.filterMap_cons, Command.url?, hurl, List.filterMap_nil, List.map_cons,
      List.map_nil]

/-! ### Environments -/

def namedLexemes (word name : String) : List Lexeme :=
  .word word.toList :: .char '\x7b' :: (name.toList.map .char ++ [.char '\x7d'])

theorem words_namedLexemes {word : String} (name : String) (h : word.toList ∈ ownWords) :
    ∀ w, Lexeme.word w ∈ namedLexemes word name → w ∈ ownWords := by
  intro w hw
  simp only [namedLexemes, List.mem_cons, List.mem_append, List.mem_map, List.not_mem_nil, or_false,
    reduceCtorEq, and_false, exists_false, Lexeme.word.injEq] at hw
  rw [hw]
  exact h

theorem writes_begin {name : String} (h : name = "itemize" ∨ name = "enumerate") (level : Level) :
    Writes (command "begin" name.toList) level ⟨level.depth, name.toList :: level.opened⟩ [] [] := by
  have hown : Command.IsOwn (.begins name.toList) := by
    rcases h with rfl | rfl <;> simp [Command.IsOwn, environments]
  refine ⟨namedLexemes "begin" name, [.begins name.toList], ?_,
    words_namedLexemes name (by decide), ?_, ?_, by simpa using hown, rfl, rfl, rfl⟩
  · rcases h with rfl | rfl <;> rfl
  · rcases h with rfl | rfl <;> rfl
  · rcases h with rfl | rfl <;> rfl

theorem writes_end {name : String} (h : name = "itemize" ∨ name = "enumerate") (level : Level) :
    Writes (command "end" name.toList) ⟨level.depth, name.toList :: level.opened⟩ level [] [] := by
  have hown : Command.IsOwn (.ends name.toList) := by
    rcases h with rfl | rfl <;> simp [Command.IsOwn, environments]
  have hnest : nest (name.toList :: level.opened) [.ends name.toList] = some level.opened := by
    rw [nest, if_pos rfl, nest]
  refine ⟨namedLexemes "end" name, [.ends name.toList], ?_,
    words_namedLexemes name (by decide), ?_, ?_, by simpa using hown, hnest, rfl, rfl⟩
  · rcases h with rfl | rfl <;> rfl
  · rcases h with rfl | rfl <;> rfl
  · rcases h with rfl | rfl <;> rfl

theorem writes_newline (level : Level) : Writes ['\n'] level level [] [] :=
  ⟨[.char '\n'], [], rfl, by simp, rfl, rfl, by simp, rfl, rfl, rfl⟩

theorem writes_item (level : Level) : Writes "\\item ".toList level level [] [] := by
  refine ⟨[.word "item".toList, .char ' '], [.item], rfl, ?_, rfl, rfl, ?_, rfl, rfl, rfl⟩
  · intro name hname
    simp only [List.mem_cons, List.not_mem_nil, or_false, reduceCtorEq, Lexeme.word.injEq] at hname
    rw [hname]
    decide
  · simp [Command.IsOwn]

theorem Writes.environment {body text : List Char} {urls : List (List Char)} {name : String}
    {level : Level} (hname : name = "itemize" ∨ name = "enumerate")
    (h : Writes body ⟨level.depth, name.toList :: level.opened⟩
      ⟨level.depth, name.toList :: level.opened⟩ text urls) :
    Writes (environment name body) level level text urls := by
  have hend := (writes_end hname level).append (writes_newline level)
  have hbody := (writes_newline ⟨level.depth, name.toList :: level.opened⟩).append (h.append hend)
  have hall := (writes_begin hname level).append hbody
  simpa only [Latex.environment, List.cons_append, List.nil_append, List.append_nil] using hall

/-! ### Rendering -/

/-- A text that changes nothing of what is open, wherever it stands. -/
def Renders (out text : List Char) (urls : List (List Char)) : Prop :=
  ∀ level, Writes out level level text urls

theorem Renders.formatted {body text : List Char} {urls : List (List Char)}
    (h : Renders body text urls) (name : String)
    (hname : name = "textbf" ∨ name = "textit" ∨ name = "underline") :
    Renders (command name body) text urls := by
  intro level
  rcases hname with rfl | rfl | rfl
  · exact (h level.deeper).command "textbf" (by decide) (by decide)
  · exact (h level.deeper).command "textit" (by decide) (by decide)
  · exact (h level.deeper).command "underline" (by decide) (by decide)

theorem url_eq (escapesText : Bool) {href : Json} (h : href.IsAttribute) :
    Style.url ⟨escapesText, true⟩ href = .ok (escapeUrl href.attributeText) := by
  rcases h.cases with ⟨hfalse, htext⟩ | ⟨htrue, s, rfl, _⟩
  · simp [Style.url, hfalse, htext, escapeUrl]
  · simp [Style.url, htrue, Json.attributeText]

theorem Renders.linked {body text : List Char} {urls : List (List Char)}
    (h : Renders body text urls) (underline : Bool) {href : Json} (hhref : href.IsAttribute)
    (target className : Json) :
    ∃ out, applyMark ⟨true, true⟩ underline body (.link href target className) = .ok out ∧
      Renders out text (href.attributeText :: urls) := by
  have hinner : Renders (if underline then command "underline" body else body) text urls := by
    cases underline with
    | false => exact h
    | true => exact h.formatted "underline" (Or.inr (Or.inr rfl))
  refine ⟨command "href" (escapeUrl href.attributeText) ++ ('\x7b' ::
    ((if underline then command "underline" body else body) ++ ['\x7d'])), ?_, fun level => ?_⟩
  · simp only [applyMark, url_eq true hhref, bind, Except.bind]
  · have hgroup := (writes_open level).append ((hinner level.deeper).append (writes_close level))
    have hall := (writes_href href.attributeText level).append hgroup
    simpa only [List.cons_append, List.nil_append, List.append_nil] using hall

theorem Renders.withMark {body text : List Char} {urls : List (List Char)}
    (h : Renders body text urls) (underline : Bool) {mark : Mark} (hmark : mark.HasHref) :
    ∃ out, applyMark ⟨true, true⟩ underline body mark = .ok out ∧
      Renders out text (mark.href?.toList ++ urls) := by
  cases mark with
  | bold => exact ⟨_, rfl, h.formatted "textbf" (Or.inl rfl)⟩
  | italic => exact ⟨_, rfl, h.formatted "textit" (Or.inr (Or.inl rfl))⟩
  | underline => exact ⟨_, rfl, h.formatted "underline" (Or.inr (Or.inr rfl))⟩
  | link href target className => exact h.linked underline hmark target className

theorem Renders.marked {marks : List Mark} (hmarks : ∀ mark ∈ marks, mark.HasHref)
    (underline : Bool) {body text : List Char} {urls : List (List Char)}
    (h : Renders body text urls) :
    ∃ out, applyMarks ⟨true, true⟩ underline body marks = .ok out ∧
      Renders out text (marks.reverse.filterMap Mark.href? ++ urls) := by
  induction marks generalizing body urls with
  | nil => exact ⟨body, rfl, h⟩
  | cons mark rest ih =>
    obtain ⟨inner, hinner, hrenders⟩ :=
      h.withMark underline (hmarks mark (List.mem_cons_self ..))
    obtain ⟨out, hout, hall⟩ := ih (fun m hm => hmarks m (List.mem_cons_of_mem _ hm)) hrenders
    rw [filterMap_reverse_cons, List.append_assoc]
    exact ⟨out, by simp only [applyMarks, hinner, hout], hall⟩

theorem Renders.enclosed {body text : List Char} {urls : List (List Char)}
    (h : Renders body text urls) (container : Container Int) {children : List Node}
    (hchildless : children = [] → text = [] ∧ urls = []) :
    Renders (enclose container children.isEmpty body) text urls := by
  intro level
  cases container with
  | doc => exact h level
  | paragraph =>
    cases children with
    | nil =>
      obtain ⟨rfl, rfl⟩ := hchildless rfl
      exact writes_newline level
    | cons child rest =>
      have hfeeds := (writes_newline level).append (writes_newline level)
      have hall := (h level).append hfeeds
      rw [List.append_nil, List.append_nil, List.append_nil, List.append_nil] at hall
      exact hall
  | bulletList => exact Writes.environment (Or.inl rfl) (h _)
  | orderedList start => exact Writes.environment (Or.inr rfl) (h _)
  | listItem => exact (writes_item level).append (h level).closeUp

mutual

/-- A tree whose links have proper destinations is rendered, and what is rendered says its text and
its destinations. -/
theorem render_renders (underline : Bool) : (node : Node) → (∀ mark ∈ node.marks, mark.HasHref) →
    ∃ out, render ⟨true, true⟩ underline node = .ok out ∧
      Renders out node.plainText (node.fromMarks Mark.href?)
  | .text content marks, h => by
    have hmarks : ∀ mark ∈ marks, mark.HasHref := fun m hm =>
      h m (by simpa [Node.marks, Node.leaves] using hm)
    have hcontent : Renders (escape content.toList) content.toList [] := writes_escape content.toList
    obtain ⟨out, hout, hrenders⟩ := Renders.marked hmarks underline hcontent
    refine ⟨out, hout, ?_⟩
    simpa [Node.plainText, Node.fromMarks, Node.leaves] using hrenders
  | .branch container children, h => by
    rw [Node.marks_branch] at h
    obtain ⟨body, hbody, hrenders⟩ := renderAll_renders underline children
      fun child hchild mark hm => h mark (List.mem_flatMap.2 ⟨child, hchild, hm⟩)
    rw [Node.plainText_branch, Node.fromMarks_branch]
    refine ⟨_, by rw [render, hbody]; rfl, hrenders.enclosed container ?_⟩
    rintro rfl
    exact ⟨rfl, rfl⟩

theorem renderAll_renders (underline : Bool) : (nodes : List Node) →
    (∀ child ∈ nodes, ∀ mark ∈ child.marks, mark.HasHref) →
    ∃ out, renderAll ⟨true, true⟩ underline nodes = .ok out ∧
      Renders out (nodes.flatMap Node.plainText) (nodes.flatMap (Node.fromMarks Mark.href?))
  | [], _ => ⟨[], rfl, writes_nil⟩
  | child :: rest, h => by
    obtain ⟨first, hfirst, hrenders⟩ :=
      render_renders underline child (h child (List.mem_cons_self ..))
    obtain ⟨others, hothers, hall⟩ := renderAll_renders underline rest fun c hc =>
      h c (List.mem_cons_of_mem _ hc)
    exact ⟨first ++ others, by rw [renderAll, hfirst, hothers]; rfl,
      fun level => (hrenders level).append (hall level)⟩

end

end Latex

/-! ### The whole -/

/-- What the LaTeX writer makes of a document whose links have proper destinations leaves no
backslash dangling, and its braces are balanced. Its control words are the renderer's own, nothing
with a meaning in LaTeX stands unescaped in the running text or in a destination, and every
environment is closed in its place. Line feeds aside, the running text is the text of the document
and the destinations are those of its links, leaf by leaf and from the outermost mark inwards. -/
theorem generate_latex (o : Options) (value : Json) (context : Context) (node : Node)
    (htext : o.get "escape_special" = .bool true) (hurls : o.get "escape_link_urls" = .bool true)
    (hcontext : Context.ofValue value = .ok context)
    (hhrefs : ∀ mark ∈ node.marks, mark.HasHref) :
    ∃ out lexemes found, Writer.generate ⟨.latex, o⟩ value node = .ok out ∧
      Latex.lex out.toList = some lexemes ∧
      Latex.braces 0 lexemes = some 0 ∧
      (∀ name, .word name ∈ lexemes → name ∈ Latex.ownWords) ∧
      Latex.commands lexemes = some found ∧
      (∀ command ∈ found, command.IsOwn) ∧
      Latex.nest [] found = some [] ∧
      found.filterMap Latex.Command.text? = withoutFeeds node.plainText ∧
      found.filterMap Latex.Command.url? = (node.fromMarks Mark.href?).map withoutFeeds := by
  obtain ⟨out, hout, hrenders⟩ := Latex.render_renders context.linkUnderline node hhrefs
  obtain ⟨lexemes, found, hlex, hsegment⟩ := hrenders ⟨0, []⟩
  have hstyle : latexStyle o = ⟨true, true⟩ := by
    rw [latexStyle, htext, hurls]
    rfl
  refine ⟨String.ofList out, lexemes, found, ?_, ?_, hsegment.braces, hsegment.words, ?_,
    hsegment.own, hsegment.nested, hsegment.text, hsegment.urls⟩
  · simp only [Writer.generate, hcontext, Writer.write, hstyle, hout]
    rfl
  · rw [String.toList_ofList]
    exact hlex.lex_eq
  · rw [Latex.commands, hsegment.commands]

/-- A leaf that looks like commands, in a link inside another link, in a list. -/
theorem generate_latex_hostile :
    ∃ out lexemes found, Writer.generate ⟨.latex, .default .latexWriter⟩ .null
        (.branch .bulletList [.branch .listItem [.branch .paragraph
          [.text "\\end\x7b\n\nitemize\x7d" [.link (.str "%20\\\x7d") .null .null, .bold,
            .link .null .null (.int 3)]]]]) = .ok out ∧
      Latex.lex out.toList = some lexemes ∧
      Latex.commands lexemes = some found ∧
      Latex.nest [] found = some [] ∧
      found.filterMap Latex.Command.text? = "\\end\x7bitemize\x7d".toList ∧
      found.filterMap Latex.Command.url? = [[], "%20\\\x7d".toList] := by
  obtain ⟨out, lexemes, found, hout, hlex, _, _, hcommands, _, hnest, htext, hurls⟩ :=
    generate_latex (.default .latexWriter) .null {}
      (.branch .bulletList [.branch .listItem [.branch .paragraph
        [.text "\\end\x7b\n\nitemize\x7d" [.link (.str "%20\\\x7d") .null .null, .bold,
          .link .null .null (.int 3)]]]])
      rfl rfl rfl (by
        intro mark hmark
        simp only [Node.marks, Node.leaves, Node.allLeaves, List.append_nil, List.flatMap_cons,
          List.flatMap_nil, List.mem_cons, List.not_mem_nil, or_false] at hmark
        rcases hmark with rfl | rfl | rfl
        · exact Or.inr ⟨_, rfl⟩
        · trivial
        · exact Or.inl rfl)
  exact ⟨out, lexemes, found, hout, hlex, hcommands, hnest, htext, hurls⟩

end Vitae
