import Vitae.Compile
import Vitae.Proofs.Document
import Vitae.Proofs.Html.Escape
import Vitae.Proofs.Html.Scanner

/-!
# What rendered HTML says

Reading a rendered document back gives only the renderer's own tags, each closed in its place, the
links with the attributes their marks ask for, and as data the escaped text of the document.
-/

namespace Vitae

namespace Html

/-! ### What a document asks for -/

def given (name : String) (text : List Char) : List Attribute :=
  if text = [] then [] else [⟨name.toList, text⟩]

def linkAttributes (defaultHref : List Char) (underline : Bool) (href target className : Json) :
    List Attribute :=
  ⟨"href".toList, if href.attributeText = [] then defaultHref else href.attributeText⟩ ::
    ((if underline then [] else given "target" target.attributeText) ++
      given "class" className.attributeText)

end Html

def Mark.linkAttributes? (defaultHref : List Char) (underline : Bool) :
    Mark → Option (List Html.Attribute)
  | .link href target className =>
    some (Html.linkAttributes defaultHref underline href target className)
  | _ => none

/-- The attributes of all links of a tree: leaf by leaf, from the outermost mark inwards. -/
def Node.linkAttributes (defaultHref : List Char) (underline : Bool) (node : Node) :
    List (List Html.Attribute) :=
  node.fromMarks (Mark.linkAttributes? defaultHref underline)

namespace Html

/-! ### What a text says -/

def tagNames : List (List Char) :=
  ["p", "ul", "ol", "li", "strong", "em", "u", "a"].map String.toList

/-- Can the token stand in a rendered document? Data has no angle brackets, tags have the renderer's
names, and only links have attributes, with neither angle brackets nor double quotes in a value. -/
def Token.IsOwn : Token → Prop
  | .char c => c ≠ '<' ∧ c ≠ '>'
  | .opening name attributes =>
    name ∈ tagNames ∧ (name ≠ ['a'] → attributes = []) ∧
      ∀ a ∈ attributes, ∀ c ∈ a.value, c ≠ '<' ∧ c ≠ '>' ∧ c ≠ '"'
  | .closing name => name ∈ tagNames

def Attribute.decoded (a : Attribute) : Attribute := ⟨a.name, CharRef.decode a.value⟩

def Attribute.escaped (a : Attribute) : Attribute := ⟨a.name, escape a.value⟩

theorem decoded_escaped (a : Attribute) : a.escaped.decoded = a := by
  rw [Attribute.escaped, Attribute.decoded, decode_escape]

theorem map_decoded_escaped (attributes : List Attribute) :
    (attributes.map Attribute.escaped).map Attribute.decoded = attributes := by
  rw [List.map_map]
  exact (List.map_congr_left fun a _ => decoded_escaped a).trans (List.map_id attributes)

/-- Tokens that say a text with links in it and nothing else. -/
structure Means (tokens : List Token) (text : List Char) (links : List (List Attribute)) :
    Prop where
  own : ∀ token ∈ tokens, token.IsOwn
  nested : ∀ opened, nest opened tokens = some opened
  charData : charData tokens = escape text
  links : (anchors tokens).map (·.map Attribute.decoded) = links

namespace Means

theorem nil : Means [] [] [] where
  own := by simp
  nested _ := rfl
  charData := rfl
  links := rfl

theorem append {tokens more : List Token} {text after : List Char}
    {links others : List (List Attribute)} (h : Means tokens text links)
    (hmore : Means more after others) :
    Means (tokens ++ more) (text ++ after) (links ++ others) where
  own token htoken := (List.mem_append.1 htoken).elim (h.own token) (hmore.own token)
  nested opened := by rw [nest_append more (h.nested opened), hmore.nested]
  charData := by
    rw [escape_append, ← h.charData, ← hmore.charData]
    exact List.filterMap_append
  links := by
    rw [← h.links, ← hmore.links, ← List.map_append]
    exact congrArg _ List.filterMap_append

theorem nest_map_char (opened : List (List Char)) (cs : List Char) :
    nest opened (cs.map .char) = some opened := by
  induction cs with
  | nil => rfl
  | cons c cs ih => exact ih

theorem text (cs : List Char) : Means ((escape cs).map .char) cs [] where
  own token htoken := by
    obtain ⟨c, hc, rfl⟩ := List.mem_map.1 htoken
    have hdelimiter := ne_delimiter_of_mem_escape hc
    exact ⟨hdelimiter.1, hdelimiter.2.1⟩
  nested opened := nest_map_char opened _
  charData := by
    rw [Html.charData, List.filterMap_map]
    exact List.filterMap_some
  links := by
    have hnone : anchors ((escape cs).map .char) = [] := by
      rw [anchors, List.filterMap_map]
      exact List.filterMap_eq_nil_iff.2 fun _ _ => rfl
    rw [hnone]
    rfl

theorem wrap {tokens : List Token} {text : List Char} {links : List (List Attribute)}
    (h : Means tokens text links) {name : List Char} (attributes : List Attribute)
    (hname : name ∈ tagNames) (hnone : name ≠ ['a'] → attributes = [])
    (hvalues : ∀ a ∈ attributes, ∀ c ∈ a.value, c ≠ '<' ∧ c ≠ '>' ∧ c ≠ '"') :
    Means (.opening name attributes :: (tokens ++ [.closing name])) text
      ((if name = ['a'] then [attributes.map Attribute.decoded] else []) ++ links) where
  own token htoken := by
    rcases List.mem_cons.1 htoken with rfl | htoken
    · exact ⟨hname, hnone, hvalues⟩
    rcases List.mem_append.1 htoken with htoken | htoken
    · exact h.own token htoken
    · rw [List.mem_singleton.1 htoken]
      exact hname
  nested opened := by
    rw [nest, nest_append _ (h.nested (name :: opened)), nest, if_pos rfl, nest]
  charData := by
    rw [← h.charData]
    simp only [Html.charData, List.filterMap_cons, List.filterMap_append, Token.char?,
      List.filterMap_nil, List.append_nil]
  links := by
    rw [← h.links]
    by_cases ha : name = ['a']
    · simp [Html.anchors, Token.anchor?, ha]
    · simp [Html.anchors, Token.anchor?, ha]

end Means

/-! ### Rendering -/

/-- A text that is read as tokens that say a text with links in it. -/
def Reads (out text : List Char) (links : List (List Attribute)) : Prop :=
  ∃ tokens, scan out = some tokens ∧ Means tokens text links

theorem Reads.append {out more text after : List Char} {links others : List (List Attribute)}
    (h : Reads out text links) (hmore : Reads more after others) :
    Reads (out ++ more) (text ++ after) (links ++ others) := by
  obtain ⟨tokens, hscan, hmeans⟩ := h
  obtain ⟨after, hscan', hmeans'⟩ := hmore
  exact ⟨_, scan_append hscan hscan', hmeans.append hmeans'⟩

theorem reads_escape (cs : List Char) : Reads (escape cs) cs [] := by
  refine ⟨_, scan_data ?_, Means.text cs⟩
  intro c hc
  have hdelimiter := ne_delimiter_of_mem_escape hc
  exact ⟨hdelimiter.1, hdelimiter.2.1⟩

theorem isAlpha_of_mem_tagNames {name : List Char} (h : name ∈ tagNames) :
    ∀ c ∈ name, c.isAlpha = true := by
  have hall : tagNames.all (·.all Char.isAlpha) = true := by decide
  exact List.all_eq_true.1 (List.all_eq_true.1 hall name h)

theorem Reads.element {body text : List Char} {links : List (List Attribute)}
    (h : Reads body text links) (tag : String) (hown : tag.toList ∈ tagNames)
    (hlink : tag.toList ≠ ['a']) : Reads (element tag body) text links := by
  obtain ⟨tokens, hscan, hmeans⟩ := h
  have hnone : ∀ a ∈ ([] : List Attribute), a.IsReadable := by simp
  have hwrap := hmeans.wrap [] hown (fun _ => rfl) (by simp)
  rw [if_neg hlink, List.nil_append] at hwrap
  exact ⟨_, scan_wrap (isAlpha_of_mem_tagNames hown) hnone hscan, hwrap⟩

theorem attr_str (d : Json) (name s : String) :
    attr ⟨true, d⟩ name (.str s) = .ok (Attribute.escaped ⟨name.toList, s.toList⟩).spell := rfl

theorem attr?_eq_given (d : Json) (name : String) {value : Json} (h : value.IsAttribute) :
    attr? ⟨true, d⟩ name value =
      .ok (spell ((given name value.attributeText).map Attribute.escaped)) := by
  rcases h.cases with ⟨hfalse, htext⟩ | ⟨htrue, s, rfl, htext⟩
  · rw [attr?, hfalse, given, if_pos htext]
    rfl
  · rw [attr?, if_pos htrue, attr_str, given, Json.attributeText, if_neg htext]
    simp [spell]

theorem anchor_eq (d : String) (underline : Bool) {href target className : Json}
    (h : (Mark.link href target className).HasAttributes) (body : List Char) :
    anchor ⟨true, .str d⟩ underline href target className body =
      .ok ('<' :: (['a'] ++ (spell ((linkAttributes d.toList underline href target className).map
        Attribute.escaped) ++ ('>' :: (body ++ ('<' :: '/' :: (['a'] ++ ['>']))))))) := by
  obtain ⟨hhref, htarget, hclass⟩ := h
  have hfirst : attr ⟨true, .str d⟩ "href" (if href.truthy then href else .str d) =
      .ok (Attribute.escaped ⟨"href".toList,
        if href.attributeText = [] then d.toList else href.attributeText⟩).spell := by
    rcases hhref.cases with ⟨hfalse, htext⟩ | ⟨htrue, s, rfl, htext⟩
    · rw [hfalse, if_neg Bool.false_ne_true, if_pos htext, attr_str]
    · rw [if_pos htrue, Json.attributeText, if_neg htext, attr_str]
  simp only [anchor, hfirst, attr?_eq_given _ _ htarget, attr?_eq_given _ _ hclass]
  cases underline <;> simp [linkAttributes, spell, bind, Except.bind]

theorem isAlpha_of_mem_linkAttributes {defaultHref : List Char} {underline : Bool}
    {href target className : Json} {a : Attribute}
    (h : a ∈ linkAttributes defaultHref underline href target className) :
    ∀ c ∈ a.name, c.isAlpha = true := by
  have hgiven : ∀ (name : String) (text : List Char), a ∈ given name text →
      a.name = name.toList := by
    intro name text ha
    unfold given at ha
    split at ha
    · cases ha
    · rw [List.mem_singleton.1 ha]
  have hname : a.name.all Char.isAlpha = true := by
    rcases List.mem_cons.1 h with rfl | h
    · simp only [String.reduceToList]
      decide
    rcases List.mem_append.1 h with h | h
    · split at h
      · cases h
      · rw [hgiven _ _ h]
        decide
    · rw [hgiven _ _ h]
      decide
  exact List.all_eq_true.1 hname

theorem Reads.linked (d : String) (underline : Bool) {href target className : Json}
    (hmark : (Mark.link href target className).HasAttributes) {body text : List Char}
    {links : List (List Attribute)} (h : Reads body text links) :
    ∃ out, anchor ⟨true, .str d⟩ underline href target className body = .ok out ∧
      Reads out text (linkAttributes d.toList underline href target className :: links) := by
  obtain ⟨tokens, hscan, hmeans⟩ := h
  refine ⟨_, anchor_eq d underline hmark body, ?_⟩
  have hvalues : ∀ a ∈ (linkAttributes d.toList underline href target className).map
      Attribute.escaped, ∀ c ∈ a.value, c ≠ '<' ∧ c ≠ '>' ∧ c ≠ '"' := by
    intro a ha c hc
    obtain ⟨b, _, rfl⟩ := List.mem_map.1 ha
    have hdelimiter := ne_delimiter_of_mem_escape hc
    exact ⟨hdelimiter.1, hdelimiter.2.1, hdelimiter.2.2.1⟩
  have hreadable : ∀ a ∈ (linkAttributes d.toList underline href target className).map
      Attribute.escaped, a.IsReadable := by
    intro a ha
    refine ⟨?_, hvalues a ha⟩
    obtain ⟨b, hb, rfl⟩ := List.mem_map.1 ha
    have hname := isAlpha_of_mem_linkAttributes hb
    exact hname
  have hown : ['a'] ∈ tagNames := by decide
  have hwrap := hmeans.wrap _ hown (fun hne => absurd rfl hne) hvalues
  rw [if_pos rfl, map_decoded_escaped, List.singleton_append] at hwrap
  exact ⟨_, scan_wrap (isAlpha_of_mem_tagNames hown) hreadable hscan, hwrap⟩

theorem Reads.withMark (d : String) (underline : Bool) {mark : Mark} (hmark : mark.HasAttributes)
    {body text : List Char} {links : List (List Attribute)} (h : Reads body text links) :
    ∃ out, applyMark ⟨true, .str d⟩ underline body mark = .ok out ∧
      Reads out text ((mark.linkAttributes? d.toList underline).toList ++ links) := by
  cases mark with
  | bold => exact ⟨_, rfl, h.element "strong" (by decide) (by decide)⟩
  | italic => exact ⟨_, rfl, h.element "em" (by decide) (by decide)⟩
  | underline => exact ⟨_, rfl, h.element "u" (by decide) (by decide)⟩
  | link href target className => exact h.linked d underline hmark

theorem Reads.marked (d : String) (underline : Bool) {marks : List Mark}
    (hmarks : ∀ mark ∈ marks, mark.HasAttributes) {body text : List Char}
    {links : List (List Attribute)} (h : Reads body text links) :
    ∃ out, applyMarks ⟨true, .str d⟩ underline body marks = .ok out ∧
      Reads out text (marks.reverse.filterMap (Mark.linkAttributes? d.toList underline) ++ links) := by
  induction marks generalizing body links with
  | nil => exact ⟨body, rfl, h⟩
  | cons mark rest ih =>
    obtain ⟨inner, hinner, hreads⟩ := h.withMark d underline (hmarks mark (List.mem_cons_self ..))
    obtain ⟨out, hout, hall⟩ := ih (fun m hm => hmarks m (List.mem_cons_of_mem _ hm)) hreads
    rw [filterMap_reverse_cons, List.append_assoc]
    exact ⟨out, by simp only [applyMarks, hinner, hout], hall⟩

theorem Reads.enclosed {body text : List Char} {links : List (List Attribute)}
    (h : Reads body text links) (container : Container Int) :
    Reads (enclose container body) text links := by
  cases container with
  | doc => exact h
  | paragraph => exact h.element "p" (by decide) (by decide)
  | bulletList => exact h.element "ul" (by decide) (by decide)
  | orderedList start => exact h.element "ol" (by decide) (by decide)
  | listItem => exact h.element "li" (by decide) (by decide)

mutual

/-- A tree whose links have proper attributes is rendered, and what is rendered says its text and
its links. -/
theorem render_reads (d : String) (underline : Bool) : (node : Node) →
    (∀ mark ∈ node.marks, mark.HasAttributes) →
    ∃ out, render ⟨true, .str d⟩ underline node = .ok out ∧
      Reads out node.plainText (node.linkAttributes d.toList underline)
  | .text content marks, h => by
    have hmarks : ∀ mark ∈ marks, mark.HasAttributes := fun m hm =>
      h m (by simpa [Node.marks, Node.leaves] using hm)
    obtain ⟨out, hout, hreads⟩ := (reads_escape content.toList).marked d underline hmarks
    refine ⟨out, hout, ?_⟩
    simpa [Node.plainText, Node.linkAttributes, Node.fromMarks, Node.leaves] using hreads
  | .branch container children, h => by
    rw [Node.marks_branch] at h
    obtain ⟨body, hbody, hreads⟩ := renderAll_reads d underline children fun child hchild mark hm =>
      h mark (List.mem_flatMap.2 ⟨child, hchild, hm⟩)
    rw [Node.plainText_branch, Node.linkAttributes, Node.fromMarks_branch]
    exact ⟨_, by rw [render, hbody]; rfl, hreads.enclosed container⟩

theorem renderAll_reads (d : String) (underline : Bool) : (nodes : List Node) →
    (∀ child ∈ nodes, ∀ mark ∈ child.marks, mark.HasAttributes) →
    ∃ out, renderAll ⟨true, .str d⟩ underline nodes = .ok out ∧
      Reads out (nodes.flatMap Node.plainText)
        (nodes.flatMap (Node.linkAttributes d.toList underline))
  | [], _ => ⟨[], rfl, [], rfl, Means.nil⟩
  | child :: rest, h => by
    obtain ⟨first, hfirst, hreads⟩ := render_reads d underline child (h child (List.mem_cons_self ..))
    obtain ⟨others, hothers, hall⟩ := renderAll_reads d underline rest fun c hc =>
      h c (List.mem_cons_of_mem _ hc)
    exact ⟨first ++ others, by rw [renderAll, hfirst, hothers]; rfl, hreads.append hall⟩

end

end Html

/-! ### The whole -/

/-- What the HTML writer makes of a document whose links have proper attributes can be cut at its
angle brackets into data and tags. The tags are the renderer's own, each closed in its place; the
links have the attributes that their marks ask for, leaf by leaf and from the outermost mark
inwards; and the data is the text of the document. -/
theorem generate_html (o : Options) (d : String) (value : Json) (context : Context) (node : Node)
    (hescape : o.get "escape_html" = .bool true) (hdefault : o.get "default_href" = .str d)
    (hcontext : Context.ofValue value = .ok context)
    (hmarks : ∀ mark ∈ node.marks, mark.HasAttributes) :
    ∃ out tokens, Writer.generate ⟨.html, o⟩ value node = .ok out ∧
      Html.scan out.toList = some tokens ∧
      (∀ token ∈ tokens, token.IsOwn) ∧
      Html.nest [] tokens = some [] ∧
      (Html.anchors tokens).map (·.map Html.Attribute.decoded) =
        node.linkAttributes d.toList context.linkUnderline ∧
      CharRef.decode (Html.charData tokens) = node.plainText := by
  obtain ⟨out, hout, tokens, hscan, hmeans⟩ :=
    Html.render_reads d context.linkUnderline node hmarks
  have hstyle : htmlStyle o = ⟨true, .str d⟩ := by
    rw [htmlStyle, hescape, hdefault]
    rfl
  refine ⟨String.ofList out, tokens, ?_, ?_, hmeans.own, hmeans.nested [], hmeans.links, ?_⟩
  · simp only [Writer.generate, hcontext, Writer.write, hstyle, hout]
    rfl
  · rw [String.toList_ofList]
    exact hscan
  · rw [hmeans.charData, Html.decode_escape]

/-- A leaf that looks like markup, in a link inside another link, under a context that underlines
links. -/
theorem generate_html_hostile :
    ∃ out tokens, Writer.generate ⟨.html, .default .htmlWriter⟩
        (.obj [("typography", .obj [("links", .obj [("underline", .bool true)])])])
        (.branch .paragraph [.text "</p>&lt;" [.link .null (.str "t") (.str "\"&quot;"),
          .bold, .link (.str "a&b") .null .null]]) = .ok out ∧
      Html.scan out.toList = some tokens ∧
      (Html.anchors tokens).map (·.map Html.Attribute.decoded) =
        [[⟨"href".toList, "a&b".toList⟩],
          [⟨"href".toList, "#".toList⟩, ⟨"class".toList, "\"&quot;".toList⟩]] ∧
      CharRef.decode (Html.charData tokens) = "</p>&lt;".toList := by
  obtain ⟨out, tokens, hout, hscan, _, _, hlinks, hdata⟩ :=
    generate_html (.default .htmlWriter) "#"
      (.obj [("typography", .obj [("links", .obj [("underline", .bool true)])])]) ⟨true⟩
      (.branch .paragraph [.text "</p>&lt;" [.link .null (.str "t") (.str "\"&quot;"),
        .bold, .link (.str "a&b") .null .null]])
      rfl rfl rfl (by
        intro mark hmark
        simp only [Node.marks, Node.leaves, Node.allLeaves, List.append_nil, List.flatMap_cons,
          List.flatMap_nil, List.mem_cons, List.not_mem_nil, or_false] at hmark
        rcases hmark with rfl | rfl | rfl
        · exact ⟨Or.inl rfl, Or.inr ⟨_, rfl⟩, Or.inr ⟨_, rfl⟩⟩
        · trivial
        · exact ⟨Or.inr ⟨_, rfl⟩, Or.inl rfl, Or.inl rfl⟩)
  exact ⟨out, tokens, hout, hscan, hlinks, hdata⟩

end Vitae
