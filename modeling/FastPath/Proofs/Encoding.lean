import FastPath.Event
import FastPath.Proofs.Addresses
import FastPath.Proofs.JsonText

/-!
# Events and their texts

An event is read back from its text (`Event.parse?_render`). Each kind of value is read back from
what is written for it, so a structure is once its fields are found under their names again.
-/

namespace FastPath

namespace Json

/-! ## Words -/

theorem word32?_ofWord32 (n : UInt32) : word32? (ofWord32 n) = some n := by
  have hrange : 0 ≤ (n.toNat : Int) ∧ (n.toNat : Int) < UInt32.size :=
    ⟨Int.natCast_nonneg _, Int.ofNat_lt.mpr n.toNat_lt_size⟩
  rw [ofWord32, word32?, if_pos hrange, Int.toNat_natCast, UInt32.ofNat_toNat]

theorem word64?_ofWord64 (n : UInt64) : word64? (ofWord64 n) = some n := by
  have hrange : 0 ≤ (n.toNat : Int) ∧ (n.toNat : Int) < UInt64.size :=
    ⟨Int.natCast_nonneg _, Int.ofNat_lt.mpr n.toNat_lt_size⟩
  rw [ofWord64, word64?, if_pos hrange, Int.toNat_natCast, UInt64.ofNat_toNat]

theorem signed64?_ofSigned64 (n : Int64) : signed64? (ofSigned64 n) = some n := by
  have hrange : Int64.minValue.toInt ≤ n.toInt ∧ n.toInt ≤ Int64.maxValue.toInt :=
    ⟨n.minValue_le_toInt, n.toInt_le⟩
  rw [ofSigned64, signed64?, if_pos hrange, Int64.ofInt_toInt]

theorem isWritable_ofWord32 (n : UInt32) : (ofWord32 n).isWritable := by
  have hlt : n.toNat < UInt32.size := n.toNat_lt_size
  have hsize : UInt32.size ≤ UInt64.size := by decide
  rw [ofWord32, isWritable, Int.natAbs_natCast]
  exact decide_eq_true (Nat.lt_of_lt_of_le hlt hsize)

theorem isWritable_ofWord64 (n : UInt64) : (ofWord64 n).isWritable := by
  rw [ofWord64, isWritable, Int.natAbs_natCast]
  exact decide_eq_true n.toNat_lt_size

theorem isWritable_ofSigned64 (n : Int64) : (ofSigned64 n).isWritable := by
  have hleast := n.minValue_le_toInt
  have hmost := n.toInt_le
  rw [Int64.toInt_minValue] at hleast
  rw [Int64.toInt_maxValue] at hmost
  have hlt : n.toInt.natAbs < UInt64.size := by
    rw [UInt64.size]
    omega
  rw [ofSigned64, isWritable]
  exact decide_eq_true hlt

/-! ## Values -/

mutual

/-- A value that can be written holds nothing void. -/
theorem isSound_of_isWritable {v : Json} (h : v.isWritable) : v.isSound := by
  match v, h with
  | null, _ | bool _, _ | whole _, _ | string _, _ => rfl
  | array vs, h => exact areSound_of_areWritable h
  | object fs, h => exact fieldsSound_of_fieldsWritable h

theorem areSound_of_areWritable {vs : List Json} (h : areWritable vs) : areSound vs := by
  match vs, h with
  | [], _ => rfl
  | v :: vs, h =>
    obtain ⟨hv, hvs⟩ := Bool.and_eq_true_iff.mp h
    rw [areSound, isSound_of_isWritable hv, areSound_of_areWritable hvs]
    rfl

theorem fieldsSound_of_fieldsWritable {fs : List (String × Json)} (h : fieldsWritable fs) :
    fieldsSound fs := by
  match fs, h with
  | [], _ => rfl
  | (name, v) :: fs, h =>
    obtain ⟨hv, hfs⟩ := Bool.and_eq_true_iff.mp h
    rw [fieldsSound, isSound_of_isWritable hv, fieldsSound_of_fieldsWritable hfs]
    rfl

end

/-- Items can be written if each of them can. -/
theorem areWritable_of_forall {vs : List Json} (h : ∀ v ∈ vs, v.isWritable) : areWritable vs := by
  induction vs with
  | nil => rfl
  | cons v vs ih =>
    obtain ⟨hv, hvs⟩ := List.forall_mem_cons.mp h
    rw [areWritable, hv, ih hvs]
    rfl

/-- Fields can be written if all their values can. -/
theorem fieldsWritable_of_forall {fs : List (String × Json)} (h : ∀ f ∈ fs, f.2.isWritable) :
    fieldsWritable fs := by
  induction fs with
  | nil => rfl
  | cons f fs ih =>
    obtain ⟨hf, hfs⟩ := List.forall_mem_cons.mp h
    rw [fieldsWritable, hf, ih hfs]
    rfl

/-! ## Fields -/

/-- An object holds the declared fields of its structure when these are the ones it was written
with. -/
theorem fields?_object {fs : List (String × Json)} {names : List String}
    (hnames : fs.map Prod.fst = names) (h : names.Nodup) : (object fs).fields? names = some fs := by
  subst hnames
  have hall : (fs.filter fun f => f.1 ∈ fs.map Prod.fst) = fs :=
    List.filter_eq_self.mpr fun f hf => decide_eq_true (List.mem_map_of_mem hf)
  rw [fields?, hall]
  exact if_pos h

/-- The only field of a name is found. -/
theorem lookup_of_mem {fs : List (String × Json)} (h : (fs.map Prod.fst).Nodup) {name : String}
    {v : Json} (hmem : (name, v) ∈ fs) : fs.lookup name = some v := by
  induction fs with
  | nil => cases hmem
  | cons f fs ih =>
    obtain ⟨hnew, hrest⟩ := List.nodup_cons.mp h
    rcases List.mem_cons.mp hmem with rfl | hmem
    · exact List.lookup_cons_self
    · have hne : (name == f.1) = false := by
        rw [beq_eq_false_iff_ne]
        rintro rfl
        exact hnew (List.mem_map.mpr ⟨_, hmem, rfl⟩)
      rw [List.lookup_cons, hne]
      exact ih hrest hmem

/-- A field that holds something of its kind is read. -/
theorem required_eq {α : Type} {fs : List (String × Json)} (h : (fs.map Prod.fst).Nodup)
    {name : String} {v : Json} (hmem : (name, v) ∈ fs) {decode : Json → Option α} {a : α}
    (hv : decode v = some a) : required fs name decode = some a := by
  rw [required, lookup_of_mem h hmem]
  exact hv

/-- A field that is required may as well be left out, so it is read the same way. -/
theorem optional_of_required {α : Type} {fs : List (String × Json)} {name : String}
    {decode : Json → Option α} {a : α} (h : required fs name decode = some a) (otherwise : α) :
    optional fs name otherwise decode = some a := by
  unfold required at h
  unfold optional
  cases hv : fs.lookup name with
  | none =>
    rw [hv] at h
    cases h
  | some v =>
    rw [hv] at h
    exact h

/-- A field that may be left out is read if it is there. -/
theorem optional_of_mem {α : Type} {fs : List (String × Json)} (h : (fs.map Prod.fst).Nodup)
    {name : String} {v : Json} (hmem : (name, v) ∈ fs) {decode : Json → Option α} {a : α}
    (hv : decode v = some a) (otherwise : α) : optional fs name otherwise decode = some a :=
  optional_of_required (required_eq h hmem hv) otherwise

/-- The field of an object that has one. -/
theorem exists_one {α : Type} (name : String) {v : Json} {decode : Json → Option α} {a : α}
    (ha : decode v = some a) :
    ∃ fs, (object [(name, v)]).fields? [name] = some fs ∧ required fs name decode = some a := by
  have hnodup : ([(name, v)].map Prod.fst).Nodup := by simp
  exact ⟨_, fields?_object rfl hnodup, required_eq hnodup List.mem_cons_self ha⟩

/-- The fields of an object that has two. -/
theorem exists_two {α β : Type} (name name' : String) (h : name ≠ name') {v v' : Json}
    {decode : Json → Option α} {a : α} (ha : decode v = some a) {decode' : Json → Option β} {b : β}
    (hb : decode' v' = some b) :
    ∃ fs, (object [(name, v), (name', v')]).fields? [name, name'] = some fs ∧
      required fs name decode = some a ∧ required fs name' decode' = some b := by
  have hnodup : ([(name, v), (name', v')].map Prod.fst).Nodup := by simp [h]
  exact ⟨_, fields?_object rfl hnodup, required_eq hnodup List.mem_cons_self ha,
    required_eq hnodup (.tail _ List.mem_cons_self) hb⟩

theorem text?_string (s : String) : text? (string s) = some s :=
  rfl

end Json

/-! ## Structures -/

open Json

theorem UpstreamInfo.ofJson?_toJson (u : UpstreamInfo) : ofJson? u.toJson = some u := by
  obtain ⟨fs, hfs, hindex, hname⟩ := exists_two "if_index" "name" (by decide)
    (word32?_ofWord32 u.ifIndex) (text?_string u.name)
  simp only [toJson, ofJson?, hfs, hindex, hname, Option.bind_eq_bind, Option.bind_some,
    Option.pure_def]

theorem Rule.neighbor?_text (a : Ipv6) : neighbor? (.string a.text) = some a := by
  rw [neighbor?, text?_string, Option.bind_some, Ipv6.parse?_text]

theorem Rule.mac?_text (m : Mac) : mac? (.string m.text) = some m := by
  rw [mac?, text?_string, Option.bind_some, Mac.parse_text]
  rfl

theorem Rule.ofJson?_toJson (r : Rule) : ofJson? r.toJson = some r := by
  obtain ⟨fs, hjson, hnames, hupstream, hdownstream, hneighbor, hdownstreamMac, hneighborMac⟩ :
      ∃ fs, r.toJson = .object fs ∧ fs.map Prod.fst = fieldNames ∧
        ("upstream_if_index", ofWord32 r.upstream) ∈ fs ∧
        ("downstream_if_index", ofWord32 r.downstream) ∈ fs ∧
        ("neighbor", .string r.neighbor.text) ∈ fs ∧
        ("downstream_mac", .string r.downstreamMac.text) ∈ fs ∧
        ("neighbor_mac", .string r.neighborMac.text) ∈ fs :=
    ⟨_, rfl, rfl, .head _, .tail _ (.head _), .tail _ (.tail _ (.head _)),
      .tail _ (.tail _ (.tail _ (.head _))), .tail _ (.tail _ (.tail _ (.tail _ (.head _))))⟩
  have hnodup : (fs.map Prod.fst).Nodup := by
    rw [hnames]
    decide
  simp only [hjson, ofJson?, fields?_object rfl hnodup, ← hnames,
    required_eq hnodup hupstream (word32?_ofWord32 _),
    required_eq hnodup hdownstream (word32?_ofWord32 _),
    required_eq hnodup hneighbor (neighbor?_text _),
    required_eq hnodup hdownstreamMac (mac?_text _),
    required_eq hnodup hneighborMac (mac?_text _),
    Option.bind_eq_bind, Option.bind_some, Option.pure_def]

/-- An upstream that may be none is read back. -/
theorem nullable_ofJson? (u : Option UpstreamInfo) :
    nullable UpstreamInfo.ofJson? (u.elim .null UpstreamInfo.toJson) = some u := by
  cases u with
  | none => rfl
  | some u =>
    have hobject : nullable UpstreamInfo.ofJson? u.toJson =
        (UpstreamInfo.ofJson? u.toJson).map some := rfl
    rw [Option.elim_some, hobject, UpstreamInfo.ofJson?_toJson, Option.map_some]

namespace Event

theorem ofDownstream?_object (make : DownstreamId → Event) (d : DownstreamId) :
    ofDownstream? make (.object [("downstream", .string d)]) = some (make d) := by
  obtain ⟨fs, hfs, hd⟩ := exists_one "downstream" (text?_string d)
  simp only [ofDownstream?, hfs, hd, Option.bind_eq_bind, Option.bind_some, Option.pure_def]

theorem ofRule?_object (make : DownstreamId → Rule → Event) (d : DownstreamId) (r : Rule) :
    ofRule? make (.object [("downstream", .string d), ("rule", r.toJson)]) = some (make d r) := by
  obtain ⟨fs, hfs, hd, hr⟩ := exists_two "downstream" "rule" (by decide) (text?_string d)
    r.ofJson?_toJson
  simp only [ofRule?, hfs, hd, hr, Option.bind_eq_bind, Option.bind_some, Option.pure_def]

theorem ofPair?_object (make : String → String → Event) (i e : String) :
    ofPair? make (.object [("internal", .string i), ("external", .string e)]) =
      some (make i e) := by
  obtain ⟨fs, hfs, hi, he⟩ := exists_two "internal" "external" (by decide) (text?_string i)
    (text?_string e)
  simp only [ofPair?, hfs, hi, he, Option.bind_eq_bind, Option.bind_some, Option.pure_def]

/-- An event is read back from its kind and its fields. -/
theorem ofKind?_fields (e : Event) : ofKind? e.kind (.object e.fields) = some e := by
  cases e with
  | upstreamName i name =>
    obtain ⟨fs, hfs, hi, hname⟩ := exists_two "if_index" "name" (by decide) (word32?_ofWord32 i)
      (text?_string name)
    simp only [ofKind?, kind, fields, hfs, hi, hname, Option.bind_eq_bind, Option.bind_some,
      Option.pure_def]
  | addRule d r => rw [kind, fields, ofKind?, ofRule?_object]
  | removeRule d r => rw [kind, fields, ofKind?, ofRule?_object]
  | updateRules d i =>
    obtain ⟨fs, hfs, hd, hi⟩ := exists_two "downstream" "upstream_if_index" (by decide)
      (text?_string d) (word32?_ofWord32 i)
    simp only [ofKind?, kind, fields, hfs, hd, hi, Option.bind_eq_bind, Option.bind_some,
      Option.pure_def]
  | upstreamChanged d u =>
    obtain ⟨fs, hfs, hd, hu⟩ := exists_two "downstream" "upstream" (by decide) (text?_string d)
      (nullable_ofJson? u)
    simp only [ofKind?, kind, fields, hfs, hd, optional_of_required hu, Option.bind_eq_bind,
      Option.bind_some, Option.pure_def]
  | setLimit iface q =>
    obtain ⟨fs, hfs, hiface, hq⟩ := exists_two "iface" "quota_bytes" (by decide)
      (text?_string iface) (signed64?_ofSigned64 q)
    simp only [ofKind?, kind, fields, hfs, hiface, hq, Option.bind_eq_bind, Option.bind_some,
      Option.pure_def]
  | setAlert q =>
    obtain ⟨fs, hfs, hq⟩ := exists_one "quota_bytes" (signed64?_ofSigned64 q)
    simp only [ofKind?, kind, fields, hfs, hq, Option.bind_eq_bind, Option.bind_some,
      Option.pure_def]
  | setPollInterval ms =>
    obtain ⟨fs, hfs, hms⟩ := exists_one "interval_ms" (word64?_ofWord64 ms)
    simp only [ofKind?, kind, fields, hfs, hms, Option.bind_eq_bind, Option.bind_some,
      Option.pure_def]
  | attach i e => rw [kind, fields, ofKind?, ofPair?_object]
  | detach i e => rw [kind, fields, ofKind?, ofPair?_object]
  | clearRules d => rw [kind, fields, ofKind?, ofDownstream?_object]
  | addDownstream d => rw [kind, fields, ofKind?, ofDownstream?_object]
  | removeDownstream d => rw [kind, fields, ofKind?, ofDownstream?_object]
  | pushStats | startPolling | stopPolling | dump => rfl

/-- What an event is written as can be written. -/
theorem isWritable_toJson (e : Event) : e.toJson.isWritable := by
  have hrule (r : Rule) : r.toJson.isWritable := by
    simp [Rule.toJson, isWritable, fieldsWritable, isWritable_ofWord32]
  have hupstream (u : Option UpstreamInfo) : (u.elim .null UpstreamInfo.toJson).isWritable := by
    cases u with
    | none => rfl
    | some u => simp [UpstreamInfo.toJson, isWritable, fieldsWritable, isWritable_ofWord32]
  cases e <;> simp [toJson, fields, isWritable, fieldsWritable, hrule, hupstream,
    isWritable_ofWord32, isWritable_ofWord64, isWritable_ofSigned64]

/-- Events do not nest deeply: a rule or an upstream stands in an object, and holds none. -/
theorem depth_toJson (e : Event) : e.toJson.depth < depthLimit := by
  have hword32 (n : UInt32) : (ofWord32 n).depth = 0 := rfl
  have hword64 (n : UInt64) : (ofWord64 n).depth = 0 := rfl
  have hsigned64 (n : Int64) : (ofSigned64 n).depth = 0 := rfl
  have hupstream (u : Option UpstreamInfo) : (u.elim .null UpstreamInfo.toJson).depth ≤ 1 := by
    cases u with
    | none => exact Nat.zero_le 1
    | some u => exact Nat.le_refl 1
  cases e with
  | upstreamChanged d u =>
    simp only [toJson, fields, Json.depth, Json.fieldDepths, depthLimit]
    have h := hupstream u
    omega
  | _ => simp [toJson, fields, Json.depth, Json.fieldDepths, Rule.toJson, depthLimit, hword32,
      hword64, hsigned64]

/-- No field of an event is taken for its kind. -/
theorem ne_event_of_mem_fields {e : Event} {f : String × Json} (h : f ∈ e.fields) :
    f.1 ≠ "event" := by
  have hnames : "event" ∉ e.fields.map Prod.fst := by
    cases e <;> simp [fields]
  rintro hf
  exact hnames (hf ▸ List.mem_map_of_mem h)

/-- An event is read back from its value. -/
theorem ofJson?_toJson (e : Event) : ofJson? e.toJson = some e := by
  have hkind : (("event", Json.string e.kind) :: e.fields).filter (fun f => f.1 = "event") =
      [("event", Json.string e.kind)] := by
    have hnone : e.fields.filter (fun f => f.1 = "event") = [] :=
      List.filter_eq_nil_iff.mpr fun f hf => by simp [ne_event_of_mem_fields hf]
    rw [List.filter_cons_of_pos (by simp), hnone]
  have hrest : (("event", Json.string e.kind) :: e.fields).filter (fun f => f.1 ≠ "event") =
      e.fields := by
    rw [List.filter_cons_of_neg (by simp)]
    exact List.filter_eq_self.mpr fun f hf => decide_eq_true (ne_event_of_mem_fields hf)
  unfold toJson ofJson?
  rw [if_pos ⟨isSound_of_isWritable e.isWritable_toJson, e.depth_toJson⟩]
  simp only [hkind, hrest, ofKind?_fields]

/-- An event is read back from its text. -/
theorem parse?_render (e : Event) : parse? e.render = some e := by
  rw [parse?, render, Json.read?_compact e.isWritable_toJson, Option.bind_some, ofJson?_toJson]

end Event

end FastPath
