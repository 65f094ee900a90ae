import FastPath.ConfigFile
import FastPath.Proofs.Encoding
import FastPath.Proofs.Lines

/-!
# Configurations and their texts

A configuration is read back from its text, whatever it holds, so that a text which was read and
written again does not change any more (`Config.render_roundtrip`). Every field has a default, which
would hide a field that is written under one name and read under another: so each is shown to be
found under its name (`Json.optional_of_mem`). A file on a disk then holds the configuration that
was saved to it (`Config.load_of_save`).
-/

namespace FastPath

open Std

/-- A table is rebuilt from its list. -/
theorem ofList_toList {κ ν : Type} [Ord κ] [TransOrd κ] [LawfulEqOrd κ] [BEq κ] [LawfulBEq κ]
    (t : ExtTreeMap κ ν) : ExtTreeMap.ofList t.toList = t := by
  refine ExtTreeMap.ext_getElem? fun k => ?_
  cases hk : t[k]? with
  | some v =>
    have hmem : (k, v) ∈ t.toList := ExtTreeMap.mem_toList_iff_getElem?_eq_some.mpr hk
    exact ExtTreeMap.getElem?_ofList_of_mem ReflCmp.compare_self t.distinct_keys_toList hmem
  | none =>
    have hnone : ((t.toList.map Prod.fst).contains k) = false := by
      rw [ExtTreeMap.map_fst_toList_eq_keys, ExtTreeMap.contains_keys]
      exact (ExtTreeMap.contains_eq_isSome_getElem? ..).trans (by rw [hk]; rfl)
    exact ExtTreeMap.getElem?_ofList_of_contains_eq_false hnone

/-- A text that may be none is read back. -/
theorem Json.nullable_text? (s : Option String) :
    nullable text? (s.elim .null .string) = some s := by
  cases s with
  | none => rfl
  | some s => rfl

open Json

/-! ## Fields -/

namespace TableNames

/-- What a table is called is found under its label. -/
theorem optional_name (n : TableNames) (l : TableLabel) (otherwise : String) :
    optional (TableLabel.all.map fun l => (l.text, .string (n.name l))) l.text otherwise text? =
      some (n.name l) := by
  refine optional_of_mem (by simp [TableLabel.all, TableLabel.text]) ?_ (text?_string _) otherwise
  exact List.mem_map.mpr ⟨l, by cases l <;> decide, rfl⟩

/-- The names of the tables are read back. -/
theorem ofJson?_toJson (n : TableNames) : ofJson? n.toJson = some n := by
  obtain ⟨fs, hfs, hdownstream4, hupstream4, hdownstream6, hupstream6, hstats, hlimit⟩ :
      ∃ fs, n.toJson.fields? (TableLabel.all.map TableLabel.text) = some fs ∧
        (∀ s, optional fs "downstream4" s text? = some n.downstream4) ∧
        (∀ s, optional fs "upstream4" s text? = some n.upstream4) ∧
        (∀ s, optional fs "downstream6" s text? = some n.downstream6) ∧
        (∀ s, optional fs "upstream6" s text? = some n.upstream6) ∧
        (∀ s, optional fs "stats" s text? = some n.stats) ∧
        (∀ s, optional fs "limit" s text? = some n.limit) :=
    ⟨_, fields?_object (List.map_map ..) (by decide), n.optional_name .downstream4,
      n.optional_name .upstream4, n.optional_name .downstream6, n.optional_name .upstream6,
      n.optional_name .stats, n.optional_name .limit⟩
  simp only [ofJson?, hfs, hdownstream4, hupstream4, hdownstream6, hupstream6, hstats, hlimit,
    Option.bind_eq_bind, Option.bind_some, Option.pure_def]

end TableNames

namespace Config

/-- Limits are read back: no two of them are for one name. -/
theorem limits?_limitsJson (limits : ExtTreeMap String Quota) :
    limits? (limitsJson limits) = some limits := by
  have hfold (l : List (String × Quota)) (t : ExtTreeMap String Quota) :
      l.foldlM (fun t l => ((ofSigned64 l.2).signed64?).map (t.insert l.1)) t =
        some (l.foldl (fun t l => t.insert l.1 l.2) t) := by
    induction l generalizing t with
    | nil => rfl
    | cons p l ih =>
      rw [List.foldlM_cons, signed64?_ofSigned64, Option.map_some]
      exact ih _
  rw [limitsJson, limits?, List.foldlM_map]
  refine (hfold limits.toList ∅).trans (congrArg some ?_)
  rw [← ExtTreeMap.ofList_eq_foldl, ofList_toList]

/-- A configuration is read back from its value. -/
theorem ofJson?_toJson (c : Config) : ofJson? c.toJson = some c := by
  obtain ⟨fs, hjson, hnames, henabled, hpoll, hdir, htables, hobject, hupstream, hdownstream,
      hcommand, hlimits⟩ :
      ∃ fs, c.toJson = .object fs ∧ fs.map Prod.fst = fieldNames ∧
        ("offload_enabled", .bool c.offloadEnabled) ∈ fs ∧
        ("poll_interval_ms", ofWord64 c.pollIntervalMs) ∈ fs ∧
        ("map_pin_dir", .string c.tableDir) ∈ fs ∧
        ("map_names", c.tableNames.toJson) ∈ fs ∧
        ("program_object", c.programObject.elim .null .string) ∈ fs ∧
        ("upstream_program", .string c.upstreamProgram) ∈ fs ∧
        ("downstream_program", .string c.downstreamProgram) ∈ fs ∧
        ("conntrack_command", .string c.conntrackCommand) ∈ fs ∧
        ("data_limits", limitsJson c.dataLimits) ∈ fs :=
    ⟨_, rfl, rfl, by simp⟩
  have hnodup : (fs.map Prod.fst).Nodup := by
    rw [hnames]
    decide
  have htruth : truth? (.bool c.offloadEnabled) = some c.offloadEnabled := rfl
  simp only [hjson, ofJson?, ← hnames, fields?_object rfl hnodup,
    optional_of_mem hnodup henabled htruth, optional_of_mem hnodup hpoll (word64?_ofWord64 _),
    optional_of_mem hnodup hdir (text?_string _),
    optional_of_mem hnodup htables c.tableNames.ofJson?_toJson,
    optional_of_mem hnodup hobject (nullable_text? _),
    optional_of_mem hnodup hupstream (text?_string _),
    optional_of_mem hnodup hdownstream (text?_string _),
    optional_of_mem hnodup hcommand (text?_string _),
    optional_of_mem hnodup hlimits (limits?_limitsJson _),
    Option.bind_eq_bind, Option.bind_some, Option.pure_def]

/-- What a configuration is written as can be written. -/
theorem isWritable_toJson (c : Config) : c.toJson.isWritable := by
  have hnames : c.tableNames.toJson.isWritable := by
    refine fieldsWritable_of_forall fun f hf => ?_
    obtain ⟨l, -, rfl⟩ := List.mem_map.mp hf
    rfl
  have hobject : (c.programObject.elim .null .string : Json).isWritable := by
    cases c.programObject <;> rfl
  have hlimits : (limitsJson c.dataLimits).isWritable := by
    refine fieldsWritable_of_forall fun f hf => ?_
    obtain ⟨l, -, rfl⟩ := List.mem_map.mp hf
    exact isWritable_ofSigned64 l.2
  simp [toJson, isWritable, fieldsWritable, isWritable_ofWord64, hnames, hobject, hlimits]

/-- A configuration is read back from its text. -/
theorem parse?_text (c : Config) : parse? c.render = some c := by
  rw [parse?, render, read?_pretty c.isWritable_toJson, Option.bind_some, ofJson?_toJson]

end Config

/-! ## Files -/

namespace MemoryDisk

variable {d d' : MemoryDisk} {path text : String} {place : Place}

/-- A file is written over what was in its place, which is no directory. -/
theorem write_told (h : d.write path text = some d') :
    ∃ place, d.find path = some place ∧ ¬d.isDir place ∧
      d' = ⟨(place, some text) :: d.nodes.filter fun n => n.1 ≠ place⟩ := by
  obtain ⟨place, hfind, h⟩ := Option.bind_eq_some_iff.mp h
  by_cases hdir : d.isDir place
  · rw [if_pos hdir] at h
    cases h
  · rw [if_neg hdir] at h
    exact ⟨place, hfind, hdir, (Option.some.inj h).symm⟩

theorem isDir_iff : d.isDir place ↔
    place = [""] ∨ (∀ name ∈ place, name = "..") ∨
      ∃ n ∈ d.nodes, place.isPrefixOf n.1 ∧ (n.2.isNone ∨ n.1 ≠ place) := by
  simp [isDir, or_assoc]

/-- Directories stay when a file is written. -/
theorem isDir_written (text : String) {other : Place} (hfile : ¬d.isDir place)
    (hdir : d.isDir other) :
    isDir ⟨(place, some text) :: d.nodes.filter fun n => n.1 ≠ place⟩ other := by
  rw [isDir_iff] at hdir hfile ⊢
  rcases hdir with htop | haround | ⟨n, hn, hprefix, hholds⟩
  · exact .inl htop
  · exact .inr (.inl haround)
  · by_cases hplace : n.1 = place
    · -- What was in the place was a file, so that the directory lies around it.
      subst hplace
      have hne : n.1 ≠ other := hholds.resolve_left fun hnone =>
        hfile (.inr (.inr ⟨n, hn, by simp, .inl hnone⟩))
      exact .inr (.inr ⟨_, List.mem_cons_self, hprefix, .inr hne⟩)
    · exact .inr (.inr ⟨n, by simp [hn, hplace], hprefix, hholds⟩)

/-- A name leads where it led as long as directories stay. -/
theorem follow_of_isDir (hdirs : ∀ other, d.isDir other → d'.isDir other) {name : List Char}
    {target : Place} (h : d.follow place name = some target) :
    d'.follow place name = some target := by
  unfold follow at h ⊢
  by_cases hdir : d.isDir place
  · rw [if_neg (by simp [hdirs _ hdir])]
    rwa [if_neg (by simp [hdir])] at h
  · rw [if_pos (by simp [hdir])] at h
    cases h

/-- And so does a path. -/
theorem find_of_isDir (hdirs : ∀ other, d.isDir other → d'.isDir other)
    (h : d.find path = some place) : d'.find path = some place := by
  have hnames (names : List (List Char)) (start : Place)
      (h : names.foldlM d.follow start = some place) :
      names.foldlM d'.follow start = some place := by
    induction names generalizing start with
    | nil => exact h
    | cons name names ih =>
      obtain ⟨next, hnext, h⟩ := Option.bind_eq_some_iff.mp h
      exact Option.bind_eq_some_iff.mpr ⟨next, follow_of_isDir hdirs hnext, ih next h⟩
  unfold find at h ⊢
  dsimp only at h ⊢
  split at h
  · rw [if_pos ‹_›]
    exact hnames _ _ h
  · cases h

/-- The empty path leads to a directory. -/
theorem find_empty (d : MemoryDisk) : d.find "" = some [] := rfl

section

variable {α β : Type}

theorem run_pure (a : α) (d : MemoryDisk) : (pure a : StateM MemoryDisk α).run d = (a, d) := rfl

theorem run_bind (x : StateM MemoryDisk α) (f : α → StateM MemoryDisk β) (d : MemoryDisk) :
    (x >>= f).run d = (f (x.run d).1).run (x.run d).2 := rfl

end

theorem run_present (d : MemoryDisk) (path : String) :
    (access.present path).run d = (d.present path, d) := rfl

theorem run_read (d : MemoryDisk) (path : String) :
    (access.read path).run d = ((d.read path).map fun text => text.toUTF8.toList, d) := rfl

/-- A file is written if it can be. -/
theorem run_write (d : MemoryDisk) (path text : String) :
    (access.write path text).run d =
      ((d.write path text).isSome, (d.write path text).getD d) := by
  have hget : (get : StateM MemoryDisk MemoryDisk).run d = (d, d) := rfl
  show (change fun d => d.write path text).run d = _
  rw [change, run_bind, hget]
  dsimp only
  cases d.write path text <;> rfl

/-- A file that was written is there, and it holds what was written. -/
theorem read_written (h : d.write path text = some d') :
    d'.present path ∧ d'.read path = some text := by
  obtain ⟨place, hfind, hfile, rfl⟩ := write_told h
  have hfind' := find_of_isDir (fun _ => isDir_written text hfile) hfind
  have hheld : file? ⟨(place, some text) :: d.nodes.filter fun n => n.1 ≠ place⟩ place =
      some text := by
    rw [file?, List.lookup_cons_self]
    rfl
  have hpath : path.isEmpty = false := by
    -- The empty path leads to a directory.
    refine Bool.eq_false_iff.mpr fun hempty => hfile ?_
    rw [String.isEmpty_iff.mp hempty, find_empty] at hfind
    obtain rfl := Option.some.inj hfind
    rfl
  constructor
  · rw [present, hfind', hpath, Option.any_some, hheld, Option.isSome_some, Bool.or_true]
    rfl
  · rw [read, hfind', Option.bind_some, hheld]

end MemoryDisk

namespace Config

open MemoryDisk

variable {d d' : MemoryDisk} {path : String} {c : Config} {n : Notice}

/-- A configuration that is written to a disk is written to a file there. -/
theorem write_of_save (h : (save access path c).run d = (Except.ok n, d')) :
    ∃ d₁ : MemoryDisk, d₁.write path c.render = some d' := by
  have hwrite {d₁ : MemoryDisk} (h : (access.write path c.render >>= fun written =>
        if written then pure (Except.ok (.configSaved path))
        else pure (Except.error (ConfigError.unwritable path))).run d₁ = (Except.ok n, d')) :
      d₁.write path c.render = some d' := by
    rw [run_bind, run_write] at h
    cases hd : d₁.write path c.render with
    | none =>
      rw [hd] at h
      cases h
    | some d₂ =>
      rw [hd] at h
      exact congrArg some (Prod.mk.inj h).2
  unfold save at h
  cases hparent : Text.parentPath? path with
  | none =>
    rw [hparent] at h
    exact ⟨d, hwrite h⟩
  | some dir =>
    simp only [hparent, run_bind] at h
    split at h
    · cases h
    · exact ⟨_, hwrite h⟩

/-- A configuration that was written to a file is read from it. -/
theorem load_of_save (h : (save access path c).run d = (Except.ok n, d')) :
    (load access path).run d' = (Except.ok (c, .configLoaded path), d') := by
  obtain ⟨d₁, hwrite⟩ := write_of_save h
  obtain ⟨hpresent, hread⟩ := read_written hwrite
  have hdecode : Text.decodeLine c.render.toUTF8.toList = some c.render := by
    rw [Text.toList_toUTF8, Text.decodeLine_encode, String.ofList_toList]
  simp only [load, run_bind, run_pure, run_present, run_read, hpresent, hread, hdecode,
    parse?_text, Option.map_some, Option.bind_some, Bool.not_true, Bool.false_eq_true, if_false]

end Config

end FastPath
