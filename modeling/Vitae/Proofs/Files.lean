import Vitae.Destination
import Vitae.Proofs.Results

/-!
# What writing a file changes

Writing at a place changes what lies there and nothing else. A path leads to the same place before
and after, because it leads through folders, and what was written is read back. A log that grows at
some place therefore makes no difference to those who read and write elsewhere.
-/

namespace Vitae.Files

/-! ### Entries -/

theorem any_setEntry (q : Place → Bool) (place : Place) (entry : Entry)
    (entries : List (Place × Entry)) :
    (setEntry place entry entries).any (fun e => q e.1) =
      (entries.any (fun e => q e.1) || q place) := by
  induction entries with
  | nil => simp [setEntry]
  | cons e rest ih =>
    by_cases h : e.1 = place
    · rw [setEntry, if_pos h, List.any_cons, List.any_cons, h]
      cases q place <;> simp
    · rw [setEntry, if_neg h, List.any_cons, List.any_cons, ih, Bool.or_assoc]

/-! ### The way to a place -/

/-- Is there something at every place on the way to a place? -/
def HasWay (files : Files) (place : Place) : Prop :=
  ∀ other, isBelow place other = true → (files.find? other).isSome = true

theorem find?_of_onTheWay {files : Files} {place : Place} (h : files.onTheWay place = true) :
    (files.find? place).isSome = true := by
  unfold find?
  cases files.entries.lookup place with
  | some entry => rfl
  | none => simp [h]

theorem isBelow_iff {place other : Place} :
    isBelow place other = true ↔ other <+: place ∧ other.length < place.length := by
  rw [isBelow, Bool.and_eq_true, List.isPrefixOf_iff_prefix, decide_eq_true_eq]

theorem hasWay_home (files : Files) : files.HasWay files.home := by
  intro other hbelow
  apply find?_of_onTheWay
  rw [onTheWay, Bool.or_eq_true, List.isPrefixOf_iff_prefix]
  exact Or.inl (isBelow_iff.1 hbelow).1

theorem hasWay_nil (files : Files) : files.HasWay [] := by
  intro other hbelow
  have hlength := (isBelow_iff.1 hbelow).2
  simp at hlength

theorem hasWay_of_file {files : Files} {place : Place} {content : ByteArray}
    (h : files.find? place = some (.file content)) : files.HasWay place := by
  intro other hbelow
  apply find?_of_onTheWay
  have hlookup : files.entries.lookup place = some (.file content) := by
    unfold find? at h
    cases hentry : files.entries.lookup place with
    | some entry =>
      rw [hentry] at h
      exact h
    | none =>
      rw [hentry] at h
      dsimp only at h
      split at h
      · cases Option.some.inj h
      · cases h
  obtain ⟨before, after, hentries, _⟩ := List.lookup_eq_some_iff.1 hlookup
  rw [onTheWay, Bool.or_eq_true, List.any_eq_true]
  exact Or.inr ⟨(place, .file content), by simp [hentries], hbelow⟩

theorem enter_eq_ok_iff {files : Files} {place next : Place} {name : String} :
    files.enter place name = .ok next ↔
      files.find? place = some .folder ∧
        (files.allow .search place = .ok () ∧ files.allow .reach next = .ok ()) ∧
        next = if name = ".." then place.dropLast else place ++ [name] := by
  unfold enter
  cases files.find? place with
  | none => simp
  | some entry =>
    cases entry with
    | file content => simp
    | folder =>
      simp only [check_bind_eq_ok_iff, Except.ok.injEq, true_and]
      constructor
      · rintro ⟨hsearch, hreach, rfl⟩
        exact ⟨⟨hsearch, hreach⟩, rfl⟩
      · rintro ⟨⟨hsearch, hreach⟩, rfl⟩
        exact ⟨hsearch, hreach, rfl⟩

theorem HasWay.enter {files : Files} {place next : Place} {name : String} (h : files.HasWay place)
    (henter : files.enter place name = .ok next) : files.HasWay next := by
  obtain ⟨hfolder, -, rfl⟩ := enter_eq_ok_iff.1 henter
  intro other hbelow
  obtain ⟨hbefore, hlength⟩ := isBelow_iff.1 hbelow
  split at hbefore
  · rename_i hdots
    rw [if_pos hdots, List.length_dropLast] at hlength
    exact h other (isBelow_iff.2 ⟨hbefore.trans (List.dropLast_prefix place), by omega⟩)
  · rename_i hname
    rw [if_neg hname, List.length_append, List.length_singleton] at hlength
    have hstart : other <+: place :=
      List.prefix_of_prefix_length_le hbefore (List.prefix_append place [name]) (by omega)
    by_cases hshort : other.length < place.length
    · exact h other (isBelow_iff.2 ⟨hstart, hshort⟩)
    · rw [hstart.eq_of_length_le (by omega), hfolder]
      rfl

theorem hasWay_of_locate {files : Files} {path : Path} {place : Place}
    (h : files.locate path = .ok place) : files.HasWay place := by
  have hwalk : ∀ (names : List String) (start : Place), files.HasWay start →
      names.foldlM files.enter start = .ok place → files.HasWay place := by
    intro names
    induction names with
    | nil =>
      intro start hstart hok
      rw [List.foldlM_nil] at hok
      cases hok
      exact hstart
    | cons name names ih =>
      intro start hstart hok
      obtain ⟨there, henter, hrest⟩ := foldlM_cons_eq_ok_iff.1 hok
      exact ih there (hstart.enter henter) hrest
  refine hwalk path.names _ ?_ h
  split
  · exact files.hasWay_home
  · exact files.hasWay_nil

/-! ### Storing -/

theorem find?_store_self (files : Files) (place : Place) (content : ByteArray) :
    (files.store place content).find? place = some (.file content) := by
  unfold find? store
  rw [lookup_setEntry_self]

theorem find?_store_other {files : Files} {place other : Place} (hway : files.HasWay place)
    (content : ByteArray) (h : other ≠ place) :
    (files.store place content).find? other = files.find? other := by
  have hlookup := lookup_setEntry_other (.file content) files.entries h
  have hother := hway other
  unfold find? store at *
  rw [hlookup]
  cases hentry : files.entries.lookup other with
  | some entry => rfl
  | none =>
    rw [hentry] at hother
    have hway : onTheWay { files with entries := setEntry place (.file content) files.entries }
        other = (files.onTheWay other || isBelow place other) := by
      rw [onTheWay, onTheWay, any_setEntry (isBelow · other), Bool.or_assoc]
    simp only [hway]
    by_cases hbelow : isBelow place other = true
    · have hsome := hother hbelow
      by_cases hon : files.onTheWay other = true
      · simp [hon]
      · simp [hon] at hsome
    · simp [hbelow]

/-! ### Agreement -/

/-- Two states of the files in which the same lies everywhere but perhaps at some places. -/
structure AgreeBut (places : List Place) (a b : Files) : Prop where
  home : a.home = b.home
  refusals : a.refusals = b.refusals
  find : ∀ place ∉ places, a.find? place = b.find? place

namespace AgreeBut

variable {places more : List Place} {a b c : Files}

theorem refl (places : List Place) (a : Files) : AgreeBut places a a :=
  ⟨rfl, rfl, fun _ _ => rfl⟩

theorem trans (h : AgreeBut places a b) (h' : AgreeBut places b c) : AgreeBut places a c :=
  ⟨h.home.trans h'.home, h.refusals.trans h'.refusals,
    fun place hplace => (h.find place hplace).trans (h'.find place hplace)⟩

theorem mono (h : AgreeBut places a b) (hsub : places ⊆ more) : AgreeBut more a b :=
  ⟨h.home, h.refusals, fun place hplace => h.find place fun hmem => hplace (hsub hmem)⟩

theorem store {files : Files} {place : Place} (hway : files.HasWay place) (content : ByteArray) :
    AgreeBut [place] files (files.store place content) :=
  ⟨rfl, rfl, fun _ hother =>
    (find?_store_other hway content fun heq => hother (List.mem_singleton.2 heq)).symm⟩

end AgreeBut

theorem allow_congr {a b : Files} (h : a.refusals = b.refusals) (use : Use) (place : Place) :
    a.allow use place = b.allow use place := by
  rw [allow, allow, h]

/-- Paths lead to the same places if the same places are folders and the same is refused. -/
theorem locate_eq_ok_iff {a b : Files} (hhome : a.home = b.home) (hrefusals : a.refusals = b.refusals)
    (hfolders : ∀ place, a.find? place = some .folder ↔ b.find? place = some .folder) {path : Path}
    {place : Place} : a.locate path = .ok place ↔ b.locate path = .ok place := by
  have hwalk : ∀ (names : List String) (start : Place),
      names.foldlM a.enter start = .ok place ↔ names.foldlM b.enter start = .ok place := by
    intro names
    induction names with
    | nil => exact fun start => Iff.rfl
    | cons name names ih =>
      intro start
      rw [foldlM_cons_eq_ok_iff, foldlM_cons_eq_ok_iff]
      refine exists_congr fun there => and_congr ?_ (ih there)
      rw [enter_eq_ok_iff, enter_eq_ok_iff, hfolders, allow_congr hrefusals, allow_congr hrefusals]
  unfold locate
  rw [hhome]
  exact hwalk path.names _

theorem readAt_eq_ok_iff {files : Files} {place : Place} {content : ByteArray} :
    files.readAt place = .ok content ↔
      files.find? place = some (.file content) ∧ files.allow .read place = .ok () := by
  unfold readAt
  cases files.find? place with
  | none => simp
  | some entry =>
    dsimp only
    rw [check_bind_eq_ok_iff]
    cases entry with
    | file found => simp [and_comm]
    | folder => simp

theorem read_eq_ok_iff {files : Files} {path : Path} {content : ByteArray} :
    files.read path = .ok content ↔
      ∃ place, files.locate path = .ok place ∧ files.find? place = some (.file content) ∧
        files.allow .read place = .ok () := by
  unfold read
  rw [bind_eq_ok_iff]
  simp only [readAt_eq_ok_iff]

theorem isFile_eq_true_iff {files : Files} {path : Path} :
    files.isFile path = .ok true ↔
      ∃ place content, files.locate path = .ok place ∧
        files.find? place = some (.file content) := by
  unfold isFile
  cases files.locate path with
  | ok place =>
    cases hfind : files.find? place with
    | none => simp [hfind]
    | some entry => cases entry <;> simp [hfind]
  | error e =>
    by_cases hno : saysNoFile e = true
    · simp [hno]
    · simp [hno]

theorem isFile_of_read {files : Files} {path : Path} {content : ByteArray}
    (h : files.read path = .ok content) : files.isFile path = .ok true := by
  obtain ⟨place, hlocate, hfile, -⟩ := read_eq_ok_iff.1 h
  exact isFile_eq_true_iff.2 ⟨place, content, hlocate, hfile⟩

theorem writable_eq_ok_iff {files : Files} {place target : Place} :
    files.writable place = .ok target ↔
      (files.find? place ≠ some .folder ∧ files.allow .write place = .ok ()) ∧ target = place := by
  rw [eq_comm (a := target)]
  unfold writable
  cases files.find? place with
  | none => simp [check_bind_eq_ok_iff]
  | some entry =>
    cases entry with
    | file content => simp [check_bind_eq_ok_iff]
    | folder => simp

theorem locateWritable_eq_ok_iff {files : Files} {path : Path} {place : Place} :
    files.locateWritable path = .ok place ↔
      files.locate path = .ok place ∧ files.find? place ≠ some .folder ∧
        files.allow .write place = .ok () := by
  unfold locateWritable
  rw [bind_eq_ok_iff]
  simp only [writable_eq_ok_iff]
  constructor
  · rintro ⟨there, hlocate, hplace, rfl⟩
    exact ⟨hlocate, hplace⟩
  · rintro ⟨hlocate, hplace⟩
    exact ⟨place, hlocate, hplace, rfl⟩

/-- Storing where a file can be written leaves every path leading where it led. -/
theorem locate_store {files : Files} {path : Path} {place : Place} (content : ByteArray)
    (h : files.locateWritable path = .ok place) {other : Path} {there : Place} :
    files.locate other = .ok there ↔ (files.store place content).locate other = .ok there := by
  obtain ⟨hlocate, hfolder, -⟩ := locateWritable_eq_ok_iff.1 h
  have hway := hasWay_of_locate hlocate
  have hfolders : ∀ other, files.find? other = some .folder ↔
      (files.store place content).find? other = some .folder := by
    intro other
    by_cases hother : other = place
    · rw [hother, find?_store_self]
      simp [hfolder]
    · rw [find?_store_other hway content hother]
  have hhome : files.home = (files.store place content).home := rfl
  have hrefusals : files.refusals = (files.store place content).refusals := rfl
  exact locate_eq_ok_iff hhome hrefusals hfolders

theorem find?_of_locate_store {files : Files} {path : Path} {place : Place} (content : ByteArray)
    (h : files.locateWritable path = .ok place) :
    (files.store place content).locate path = .ok place ∧
      (files.store place content).find? place = some (.file content) := by
  have hlocate := (locateWritable_eq_ok_iff.1 h).1
  exact ⟨(locate_store content h).1 hlocate, find?_store_self files place content⟩

/-! ### Logs -/

/-- Does a path lead elsewhere than to the log? -/
def Avoids (files : Files) (log : Option Place) (path : Path) : Prop :=
  ∀ place ∈ log, files.locate path ≠ .ok place

/-- The files before and after a log has grown at a place: all else is the same, and a file lies
there afterwards where no folder lay before. -/
structure Logged (log : Option Place) (before after : Files) : Prop where
  agree : AgreeBut log.toList before after
  free : ∀ place ∈ log, before.find? place ≠ some .folder
  file : ∀ place ∈ log, ∃ content, after.find? place = some (.file content)

namespace Logged

variable {log : Option Place} {before after : Files}

theorem none (files : Files) : Logged none files files :=
  ⟨.refl _ files, nofun, nofun⟩

theorem find (h : Logged log before after) {place : Place} (hplace : place ∉ log) :
    before.find? place = after.find? place :=
  h.agree.find place fun hmem => hplace (Option.mem_toList.1 hmem)

theorem find_folder_iff (h : Logged log before after) (place : Place) :
    before.find? place = some .folder ↔ after.find? place = some .folder := by
  by_cases hplace : place ∈ log
  · obtain ⟨content, hfile⟩ := h.file place hplace
    rw [hfile]
    simp [h.free place hplace]
  · rw [h.find hplace]

theorem locate (h : Logged log before after) {path : Path} {place : Place} :
    before.locate path = .ok place ↔ after.locate path = .ok place :=
  locate_eq_ok_iff h.agree.home h.agree.refusals h.find_folder_iff

theorem find_of_locate (h : Logged log before after) {path : Path} (havoids : before.Avoids log path)
    {place : Place} (hlocate : before.locate path = .ok place) :
    before.find? place = after.find? place :=
  h.find fun hmem => havoids place hmem hlocate

theorem read (h : Logged log before after) {path : Path} (havoids : before.Avoids log path)
    (content : ByteArray) : before.read path = .ok content ↔ after.read path = .ok content := by
  rw [read_eq_ok_iff, read_eq_ok_iff]
  refine exists_congr fun place => ?_
  rw [← h.locate, ← allow_congr h.agree.refusals]
  exact and_congr_right fun hlocate => by rw [h.find_of_locate havoids hlocate]

theorem isFile (h : Logged log before after) {path : Path} (havoids : before.Avoids log path) :
    before.isFile path = .ok true ↔ after.isFile path = .ok true := by
  rw [isFile_eq_true_iff, isFile_eq_true_iff]
  refine exists_congr fun place => exists_congr fun content => ?_
  rw [← h.locate]
  exact and_congr_right fun hlocate => by rw [h.find_of_locate havoids hlocate]

theorem locateWritable (h : Logged log before after) {path : Path} {place : Place} :
    before.locateWritable path = .ok place ↔ after.locateWritable path = .ok place := by
  rw [locateWritable_eq_ok_iff, locateWritable_eq_ok_iff, h.locate, ne_eq, ne_eq,
    h.find_folder_iff, allow_congr h.agree.refusals]

/-- Storing elsewhere leaves the file of the log where it is. -/
theorem store (h : Logged log before after) {path : Path} {place : Place}
    (hplace : before.locateWritable path = .ok place) (havoids : before.Avoids log path)
    (content : ByteArray) :
    Logged log (after.store place content) (after.store place content) := by
  have hafter := h.locateWritable.1 hplace
  have hlocate := (locateWritable_eq_ok_iff.1 hplace).1
  have hway := hasWay_of_locate (locateWritable_eq_ok_iff.1 hafter).1
  have hfile : ∀ other ∈ log, ∃ content',
      (after.store place content).find? other = some (.file content') := by
    intro other hother
    have hne : other ≠ place := fun heq => havoids other hother (heq ▸ hlocate)
    rw [find?_store_other hway content hne]
    exact h.file other hother
  refine ⟨.refl _ _, fun other hother => ?_, hfile⟩
  obtain ⟨content', hcontent⟩ := hfile other hother
  rw [hcontent]
  exact nofun

theorem append {place : Place} (h : Logged (some place) before after) (text : String) :
    Logged (some place) before (after.append place text) := by
  obtain ⟨content, hfile⟩ := h.file place rfl
  have happend : after.append place text = after.store place (content ++ text.toUTF8) := by
    simp only [Files.append, hfile]
  rw [happend]
  refine ⟨h.agree.trans (.store (hasWay_of_file hfile) _), h.free, ?_⟩
  rintro other hother
  cases hother
  exact ⟨_, find?_store_self ..⟩

theorem start {files : Files} {path : Path} {place : Place}
    (h : files.locateWritable path = .ok place) (text : String) :
    Logged (some place) files (files.append place text) := by
  obtain ⟨hlocate, hfolder, -⟩ := locateWritable_eq_ok_iff.1 h
  have hway := hasWay_of_locate hlocate
  obtain ⟨content, happend⟩ :
      ∃ content, files.append place text = files.store place content := by
    unfold Files.append
    split
    · exact ⟨_, rfl⟩
    · exact ⟨_, rfl⟩
  rw [happend]
  refine ⟨.store hway content, ?_, ?_⟩
  · rintro other hother
    cases hother
    exact hfolder
  · rintro other hother
    cases hother
    exact ⟨_, find?_store_self ..⟩

end Logged

end Vitae.Files
