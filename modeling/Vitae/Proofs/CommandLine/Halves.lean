import Vitae.Proofs.CommandLine.Stages
import Vitae.Proofs.Json.Halves

/-!
# Halves of surrogate pairs

Only JSON can write half a surrogate pair on its own. Where neither the config nor the source does,
nothing that is read of them depends on what stands for a half, and the text that is drafted has
none.
-/

namespace Vitae

namespace Config

variable {files : Files} {path : Path} {content : ByteArray}

theorem parse_of_hasNoHalf (yaml : String → Option Json) (format : Format) (name : String)
    (h : format = .json → ∀ text, lineTextOf content = .ok text → Json.HasNoHalf text)
    (half : Char) :
    parse yaml format name content half = parse yaml format name content Json.standIn := by
  cases format with
  | json =>
    rw [parse, parse]
    refine bind_congr_of_ok fun text htext => ?_
    rw [parseJson, parseJson, h rfl text htext half]
  | toml => rfl
  | yaml => rfl

theorem load_of_hasNoHalf (yaml : String → Option Json)
    (h : formatOf? path = some .json → ∀ content text, files.read path = .ok content →
      lineTextOf content = .ok text → Json.HasNoHalf text) (half : Char) :
    load yaml files path half = load yaml files path := by
  unfold load
  cases files.isFile path with
  | error e => rfl
  | ok found =>
    cases found with
    | false => rfl
    | true =>
      cases hformat : formatOf? path with
      | none => rfl
      | some format =>
        cases hread : files.read path with
        | error e => rfl
        | ok content =>
          have hparse := parse_of_hasNoHalf yaml format path.text
            (fun hjson text => h (hjson ▸ hformat) content text hread) half
          simp only [hparse]

end Config

theorem SourceFormat.name_of_ofName {name : String} {format : SourceFormat}
    (h : ofName name = .ok format) : format.name = name := by
  unfold ofName at h
  split at h
  · rename_i hname
    cases h
    exact hname.symm
  · split at h
    · rename_i hname
      cases h
      exact hname.symm
    · cases h

theorem Reader.format_of_make {name : String} {options : Option Options} {reader : Reader}
    (h : Reader.make name options = .ok reader) : reader.format.name = name := by
  obtain ⟨format, hformat, hoptions⟩ := bind_eq_ok_iff.1 h
  obtain ⟨o, -, hreader⟩ := bind_eq_ok_iff.1 hoptions
  cases hreader
  exact SourceFormat.name_of_ofName hformat

theorem Editor.read_of_hasNoHalf {source : String} (h : Json.HasNoHalf source) (strict : Bool)
    (half : Char) : Editor.read strict source half = Editor.read strict source := by
  rw [read, read, readStrict, readStrict, readLenient, readLenient, h half]

theorem readBy_of_hasNoHalf (tokens : String → List Markdown.Token) (reader : Reader)
    {source : String} (h : reader.format = .tree → Json.HasNoHalf source) (half : Char) :
    reader.readBy tokens source half = reader.readBy tokens source := by
  obtain ⟨format, options⟩ := reader
  cases format with
  | markdown => rfl
  | tree => rw [Reader.readBy, Reader.readBy, Editor.read_of_hasNoHalf (h rfl)]

theorem parseBy_of_hasNoHalf (tokens : String → List Markdown.Token) {source format : String}
    (options : Option Options) (h : format = "tree" → Json.HasNoHalf source) (half : Char) :
    parseBy tokens source format options half = parseBy tokens source format options := by
  rw [parseBy, parseBy]
  refine bind_congr_of_ok fun reader hmake => ?_
  refine readBy_of_hasNoHalf tokens reader (fun htree => h ?_) half
  rw [← Reader.format_of_make hmake, htree]
  rfl

namespace CommandLine

/-- Neither the config nor the source has half a surrogate pair in it. -/
structure HasNoHalf (s : Surroundings) (a : Arguments) : Prop where
  config : ∀ path ∈ a.configPath?, Config.formatOf? path = some .json → ∀ content text,
    s.files.read path = .ok content → Config.lineTextOf content = .ok text → Json.HasNoHalf text
  source : a.source = "tree" → ∀ source, sourceOf s a = .ok source → Json.HasNoHalf source

namespace HasNoHalf

variable {s : Surroundings} {a : Arguments}

theorem loaded_eq (h : HasNoHalf s a) (l : Libraries) (half : Char) :
    loaded l s.files a half = loaded l s.files a Json.standIn := by
  unfold loaded
  cases hpath : a.configPath? with
  | none => rfl
  | some path => exact Config.load_of_hasNoHalf l.yaml (h.config path hpath) half

theorem drafted_eq (h : HasNoHalf s a) (l : Libraries) (half : Char) :
    drafted l s a half = drafted l s a Json.standIn := by
  rw [drafted, drafted, h.loaded_eq l half]
  refine bind_congr fun _ => bind_congr fun members => bind_congr fun settings => ?_
  refine bind_congr_of_ok fun source hsource => ?_
  have hparse := parseBy_of_hasNoHalf l.tokens (settings.readerOptions a.source)
    (fun htree => h.source htree source hsource) half
  rw [compiled, compiled, hparse]

theorem isWhole (h : HasNoHalf s a) {l : Libraries} {text : String}
    (hdrafted : drafted l s a Json.standIn = .ok text) : IsWhole l s a text := by
  rw [IsWhole, h.drafted_eq l, hdrafted]

end HasNoHalf

end CommandLine

end Vitae
