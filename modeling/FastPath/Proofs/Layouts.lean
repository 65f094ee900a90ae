import FastPath.Record
import Mathlib.Algebra.GroupWithZero.Nat

/-!
# What the records carry

A record is its fields one after the other, so that each field is found at the sum of the widths
before it (`fieldAt_flatten`). The readers take the fields back out at the offsets of the layout and
give back the value that was written, so that no two values have the same record.

A rule is written in two ways, as a key and a target for the tables and as a parcel for the daemon,
which name source and destination from opposite points of view. Both carry all of the rule, and the
one can be read off the other (`records_carry_rule`).
-/

namespace FastPath

/-! ## Numbers -/

@[simp]
theorem length_littleEndian (w n : Nat) : (littleEndian w n).length = w := by
  induction w generalizing n with
  | zero => rfl
  | succ w ih => rw [littleEndian, List.length_cons, ih]

/-- A number that fits into so many bytes is read back from them. -/
theorem ofLittleEndian_littleEndian {w n : Nat} (h : n < 256 ^ w) :
    ofLittleEndian (littleEndian w n) = n := by
  induction w generalizing n with
  | zero => simp_all [littleEndian, ofLittleEndian]
  | succ w ih =>
    have hrest : n / 256 < 256 ^ w := Nat.div_lt_of_lt_mul (by rwa [← Nat.pow_succ'])
    rw [littleEndian, ofLittleEndian, ih hrest, UInt8.toNat_ofNat']
    omega

/-- The number of so many bytes fits into them. -/
theorem ofLittleEndian_lt (bytes : Bytes) : ofLittleEndian bytes < 256 ^ bytes.length := by
  induction bytes with
  | nil => exact Nat.one_pos
  | cons b bs ih =>
    have hb : b.toNat < 256 := b.toNat_lt
    rw [ofLittleEndian, List.length_cons, Nat.pow_succ]
    omega

/-- Bytes are written back from the number that is read from them. -/
theorem littleEndian_ofLittleEndian (bytes : Bytes) :
    littleEndian bytes.length (ofLittleEndian bytes) = bytes := by
  induction bytes with
  | nil => rfl
  | cons b bs ih =>
    have hb : b.toNat < 256 := b.toNat_lt
    have hlow : (b.toNat + 256 * ofLittleEndian bs) % 256 = b.toNat := by omega
    have hrest : (b.toNat + 256 * ofLittleEndian bs) / 256 = ofLittleEndian bs := by omega
    rw [List.length_cons, ofLittleEndian, littleEndian, hlow, hrest, ih, UInt8.ofNat_toNat]

/-- The bytes of a swapped half word are those of the half word from the last to the first. -/
theorem littleEndian_swapBytes (w : UInt16) :
    littleEndian 2 (swapBytes w).toNat = (littleEndian 2 w.toNat).reverse := by
  have hfits : ofBigEndian (littleEndian 2 w.toNat) < 2 ^ 16 := by
    have h := ofLittleEndian_lt (littleEndian 2 w.toNat).reverse
    rwa [List.length_reverse, length_littleEndian] at h
  have hback := littleEndian_ofLittleEndian (littleEndian 2 w.toNat).reverse
  rw [List.length_reverse, length_littleEndian] at hback
  rw [swapBytes, UInt16.toNat_ofNat_of_lt' hfits]
  exact hback

/-- Swapping twice gives the half word back. -/
theorem swapBytes_swapBytes (w : UInt16) : swapBytes (swapBytes w) = w := by
  calc swapBytes (swapBytes w)
      = .ofNat (ofBigEndian (littleEndian 2 (swapBytes w).toNat)) := rfl
    _ = .ofNat (ofLittleEndian (littleEndian 2 w.toNat)) := by
        rw [littleEndian_swapBytes, ofBigEndian, List.reverse_reverse]
    _ = w := by rw [ofLittleEndian_littleEndian w.toNat_lt, UInt16.ofNat_toNat]

/-! ## Fields -/

/-- A field is found after the fields before it. -/
theorem fieldAt_flatten {fields : List Bytes} {field : Bytes} (k : Nat) {offset width : Nat}
    (hfield : fields[k]? = some field)
    (hoffset : ((fields.take k).map List.length).sum = offset) (hwidth : field.length = width) :
    fieldAt fields.flatten offset width = field := by
  obtain ⟨hk, rfl⟩ := List.getElem?_eq_some_iff.mp hfield
  have hsplit : fields.flatten =
      (fields.take k).flatten ++ (fields[k] ++ (fields.drop (k + 1)).flatten) := by
    rw [← List.flatten_cons, ← List.drop_eq_getElem_cons hk, ← List.flatten_append,
      List.take_append_drop]
  rw [← List.length_flatten] at hoffset
  rw [fieldAt, hsplit, ← hoffset, List.drop_left, ← hwidth, List.take_left]

/-- Of items with records of one width, each is found at a multiple of it. -/
theorem fieldAt_flatMap {α : Type} {f : α → Bytes} {w : Nat} (hf : ∀ x, (f x).length = w)
    (xs : List α) {k : Nat} (hk : k < xs.length) :
    fieldAt (xs.flatMap f) (w * k) w = f xs[k] := by
  have hfield : (xs.map f)[k]? = some (f xs[k]) := by
    rw [List.getElem?_map, List.getElem?_eq_getElem hk, Option.map_some]
  have hoffset : (((xs.map f).take k).map List.length).sum = w * k := by
    have hconst : ((xs.map f).take k).map List.length = List.replicate k w := by
      refine List.eq_replicate_iff.mpr ⟨by simp; omega, fun n hn => ?_⟩
      obtain ⟨bytes, hbytes, rfl⟩ := List.mem_map.mp hn
      obtain ⟨x, -, rfl⟩ := List.mem_map.mp (List.mem_of_mem_take hbytes)
      exact hf x
    rw [hconst, List.sum_replicate_nat, Nat.mul_comm]
  rw [List.flatMap_def]
  exact fieldAt_flatten k hfield hoffset (hf _)

/-- The number in a field, least significant byte first. -/
def numberAt (record : Bytes) (offset width : Nat) : Nat :=
  ofLittleEndian (fieldAt record offset width)

/-- A number is read from the field that it was written to. -/
theorem numberAt_of_fieldAt {record : Bytes} {offset width n : Nat}
    (h : fieldAt record offset width = littleEndian width n) (hn : n < 256 ^ width) :
    numberAt record offset width = n := by
  rw [numberAt, h, ofLittleEndian_littleEndian hn]

/-! ## Addresses and indexes -/

/-- The hardware address with the given bytes. -/
def Mac.ofBytes (bytes : Bytes) : Mac :=
  ⟨.ofFn fun k => bytes.getD k 0⟩

/-- A hardware address is read back. -/
theorem Mac.ofBytes_octets (m : Mac) : Mac.ofBytes m.octets.toList = m := by
  refine congrArg Mac.mk (Vector.ext fun k hk => ?_)
  simp

/-- The version 6 address with the given bytes, in network order. -/
def Ipv6.ofBytes (bytes : Bytes) : Ipv6 :=
  ⟨.ofFn fun k => .ofNat (ofBigEndian (fieldAt bytes (2 * k) 2))⟩

/-- The two bytes of a group are read back. -/
theorem ofBigEndian_group (g : UInt16) :
    UInt16.ofNat (ofBigEndian [(g >>> 8).toUInt8, g.toUInt8]) = g := by
  have hg : g.toNat < 65536 := g.toNat_lt
  have hhigh : (g >>> 8).toUInt8.toNat = g.toNat / 256 := by
    rw [UInt16.toNat_toUInt8, UInt16.toNat_shiftRight, Nat.shiftRight_eq_div_pow]
    show g.toNat / 256 % 256 = _
    omega
  have hlow : g.toUInt8.toNat = g.toNat % 256 := UInt16.toNat_toUInt8 g
  have hboth : ofBigEndian [(g >>> 8).toUInt8, g.toUInt8] = g.toNat := by
    show g.toUInt8.toNat + 256 * ((g >>> 8).toUInt8.toNat + 256 * 0) = g.toNat
    omega
  rw [hboth, UInt16.ofNat_toNat]

/-- A version 6 address is read back. -/
theorem Ipv6.ofBytes_bytes (a : Ipv6) : Ipv6.ofBytes a.bytes = a := by
  refine congrArg Ipv6.mk (Vector.ext fun k hk => ?_)
  have hwidth : ∀ g : UInt16, [(g >>> 8).toUInt8, g.toUInt8].length = 2 := fun _ => rfl
  have hgroup : fieldAt a.bytes (2 * k) 2 = [(a.groups[k] >>> 8).toUInt8, a.groups[k].toUInt8] :=
    fieldAt_flatMap hwidth a.groups.toList (by simpa using hk)
  rw [Vector.getElem_ofFn, hgroup, ofBigEndian_group]

@[simp]
theorem Ipv6.length_bytes (a : Ipv6) : a.bytes.length = 16 := by
  simp [Ipv6.bytes, List.length_flatMap, List.map_const']

@[simp]
theorem length_indexBytes (i : IfIndex) : (indexBytes i).length = 4 :=
  length_littleEndian 4 i.toNat

/-- An interface is known by its key. -/
theorem eq_of_indexBytes_eq {i j : IfIndex} (h : indexBytes i = indexBytes j) : i = j := by
  have hread := congrArg ofLittleEndian h
  rw [indexBytes, indexBytes, ofLittleEndian_littleEndian i.toNat_lt,
    ofLittleEndian_littleEndian j.toNat_lt] at hread
  exact UInt32.toNat_inj.mp hread

/-! ## Keys and targets -/

/-- The key in a record: an index, then an address. -/
def RuleKey.ofBytes (record : Bytes) : RuleKey where
  upstream := .ofNat (numberAt record 0 4)
  neighbor := .ofBytes (fieldAt record 4 16)

/-- A key is its two fields. -/
theorem RuleKey.bytes_eq (k : RuleKey) :
    k.bytes = [indexBytes k.upstream, k.neighbor.bytes].flatten := by
  simp [RuleKey.bytes]

theorem RuleKey.length_bytes (k : RuleKey) : k.bytes.length = 20 := by
  simp [RuleKey.bytes]

/-- A key is read back. -/
theorem RuleKey.ofBytes_bytes (k : RuleKey) : RuleKey.ofBytes k.bytes = k := by
  have hupstream : fieldAt k.bytes 0 4 = indexBytes k.upstream := by
    rw [bytes_eq]
    exact fieldAt_flatten 0 rfl rfl (length_indexBytes _)
  have hneighbor : fieldAt k.bytes 4 16 = k.neighbor.bytes := by
    rw [bytes_eq]
    exact fieldAt_flatten 1 rfl (by simp) (Ipv6.length_bytes _)
  rw [ofBytes, numberAt_of_fieldAt hupstream k.upstream.toNat_lt, hneighbor, UInt32.ofNat_toNat,
    Ipv6.ofBytes_bytes]

/-- The target in a record: an index, destination and source, the EtherType in network order, and
the MTU. -/
def Target.ofBytes (record : Bytes) : Target where
  ifIndex := .ofNat (numberAt record 0 4)
  destination := .ofBytes (fieldAt record 4 6)
  source := .ofBytes (fieldAt record 10 6)
  etherType := .ofNat (ofBigEndian (fieldAt record 16 2))
  mtu := .ofNat (numberAt record 18 2)

/-- A target is its five fields. -/
theorem Target.bytes_eq (t : Target) :
    t.bytes = [indexBytes t.ifIndex, t.destination.octets.toList, t.source.octets.toList,
      littleEndian 2 t.storedEtherType.toNat, littleEndian 2 t.mtu.toNat].flatten := by
  simp [Target.bytes]

example : (Target.binding 10).bytes =
    [10, 0, 0, 0, 0, 0, 0, 0, 0, 0, 0, 0, 0, 0, 0, 0, 0x86, 0xdd, 0xdc, 0x05] := by decide

theorem Target.length_bytes (t : Target) : t.bytes.length = 20 := by
  simp [Target.bytes]

/-- The EtherType is found in the record as it is kept. -/
theorem Target.fieldAt_etherType (t : Target) :
    fieldAt t.bytes 16 2 = littleEndian 2 t.storedEtherType.toNat := by
  rw [bytes_eq]
  exact fieldAt_flatten 3 rfl (by simp) (length_littleEndian ..)

/-- In the record the EtherType is big-endian. -/
theorem Target.ofBigEndian_etherType (t : Target) :
    ofBigEndian (fieldAt t.bytes 16 2) = t.etherType.toNat := by
  rw [fieldAt_etherType, storedEtherType, littleEndian_swapBytes, ofBigEndian, List.reverse_reverse,
    ofLittleEndian_littleEndian t.etherType.toNat_lt]

/-- The EtherType that is asked for is the one that the target was made for. -/
theorem Target.etherProtocol_eq (t : Target) : t.etherProtocol = t.etherType :=
  swapBytes_swapBytes t.etherType

/-- A target is read back. -/
theorem Target.ofBytes_bytes (t : Target) : Target.ofBytes t.bytes = t := by
  have hindex : fieldAt t.bytes 0 4 = indexBytes t.ifIndex := by
    rw [bytes_eq]
    exact fieldAt_flatten 0 rfl rfl (length_indexBytes _)
  have hdestination : fieldAt t.bytes 4 6 = t.destination.octets.toList := by
    rw [bytes_eq]
    exact fieldAt_flatten 1 rfl (by simp) Vector.length_toList
  have hsource : fieldAt t.bytes 10 6 = t.source.octets.toList := by
    rw [bytes_eq]
    exact fieldAt_flatten 2 rfl (by simp) Vector.length_toList
  have hmtu : fieldAt t.bytes 18 2 = littleEndian 2 t.mtu.toNat := by
    rw [bytes_eq]
    exact fieldAt_flatten 4 rfl (by simp) (length_littleEndian ..)
  rw [ofBytes, numberAt_of_fieldAt hindex t.ifIndex.toNat_lt, hdestination, hsource,
    t.ofBigEndian_etherType, numberAt_of_fieldAt hmtu t.mtu.toNat_lt]
  simp only [UInt32.ofNat_toNat, UInt16.ofNat_toNat, Mac.ofBytes_octets]

/-! ## Counters and limits -/

/-- The counters in a record of six words. -/
def Counters.ofBytes (record : Bytes) : Counters where
  rxPackets := .ofNat (numberAt record 0 8)
  rxBytes := .ofNat (numberAt record 8 8)
  rxErrors := .ofNat (numberAt record 16 8)
  txPackets := .ofNat (numberAt record 24 8)
  txBytes := .ofNat (numberAt record 32 8)
  txErrors := .ofNat (numberAt record 40 8)

theorem Counters.length_bytes (c : Counters) : c.bytes.length = 48 := by
  simp [Counters.bytes, Counters.words]

/-- Each counter is read from its word. -/
theorem Counters.numberAt_bytes (c : Counters) {k : Nat} (hk : k < c.words.length) :
    numberAt c.bytes (8 * k) 8 = c.words[k].toNat :=
  numberAt_of_fieldAt (fieldAt_flatMap (fun _ => length_littleEndian 8 _) c.words hk)
    c.words[k].toNat_lt

/-- Counters are read back. -/
theorem Counters.ofBytes_bytes (c : Counters) : Counters.ofBytes c.bytes = c := by
  have hword : ∀ k (hk : k < 6), UInt64.ofNat (numberAt c.bytes (8 * k) 8) = c.words[k] :=
    fun k hk => by rw [c.numberAt_bytes hk, UInt64.ofNat_toNat]
  rw [ofBytes, hword 0 (by decide), hword 1 (by decide), hword 2 (by decide), hword 3 (by decide),
    hword 4 (by decide), hword 5 (by decide)]
  rfl

/-- The limit in a record. -/
def Quota.ofBytes (record : Bytes) : Quota :=
  (UInt64.ofNat (numberAt record 0 8)).toInt64

/-- A limit is read back, the one for none among them. -/
theorem Quota.ofBytes_bytes (q : Quota) : Quota.ofBytes (Quota.bytes q) = q := by
  have hfield : fieldAt (Quota.bytes q) 0 8 = littleEndian 8 q.toUInt64.toNat :=
    List.take_of_length_le (Nat.le_of_eq (length_littleEndian ..))
  rw [ofBytes, numberAt_of_fieldAt hfield q.toUInt64.toNat_lt, UInt64.ofNat_toNat]
  rfl

/-! ## Rules -/

/-- The parcel of the rule that a key and a target are about. -/
def Parcel.ofRecords (key target : Bytes) : Parcel where
  input := (RuleKey.ofBytes key).upstream
  output := (Target.ofBytes target).ifIndex
  destination := (RuleKey.ofBytes key).neighbor
  bits := 128
  source := (Target.ofBytes target).source
  target := (Target.ofBytes target).destination

/-- The rule that a parcel is about. -/
def Rule.ofParcel (p : Parcel) : Rule where
  upstream := p.input
  downstream := p.output
  neighbor := p.destination
  downstreamMac := p.source
  neighborMac := p.target

/-- The parcel of a rule can be read off its records. -/
theorem Rule.ofRecords_eq_parcel (r : Rule) :
    Parcel.ofRecords r.key.bytes r.target.bytes = r.parcel := by
  rw [Parcel.ofRecords, RuleKey.ofBytes_bytes, Target.ofBytes_bytes]
  rfl

/-- A rule can be read off its parcel. -/
theorem Rule.ofParcel_parcel (r : Rule) : Rule.ofParcel r.parcel = r := rfl

/-- Rules with the same parcel are the same. -/
theorem Rule.eq_of_parcel_eq {r r' : Rule} (h : r.parcel = r'.parcel) : r = r' := by
  calc r = .ofParcel r.parcel := (ofParcel_parcel r).symm
    _ = .ofParcel r'.parcel := by rw [h]
    _ = r' := ofParcel_parcel r'

/-- Keys with the same record are the same. -/
theorem RuleKey.eq_of_bytes_eq {k k' : RuleKey} (h : k.bytes = k'.bytes) : k = k' := by
  calc k = .ofBytes k.bytes := k.ofBytes_bytes.symm
    _ = .ofBytes k'.bytes := by rw [h]
    _ = k' := k'.ofBytes_bytes

/-- The input and the destination of the parcel can be read off the key alone. -/
theorem Rule.ofBytes_key (r : Rule) :
    RuleKey.ofBytes r.key.bytes = ⟨r.parcel.input, r.parcel.destination⟩ :=
  r.key.ofBytes_bytes

/-- Both ways to write a rule carry all of it. The key carries the upstream and the neighbor, and the
input and the destination of the parcel; key and target together, and the parcel by itself, carry
the whole rule. Every target, all counters and every limit are read back from their records. The
EtherType is big-endian in the record, and asking for it gives the one that the target was made
for. -/
theorem records_carry_rule (r r' : Rule) :
    (r.key.bytes = r'.key.bytes ↔ r.upstream = r'.upstream ∧ r.neighbor = r'.neighbor) ∧
    (r.key.bytes = r'.key.bytes ↔
      r.parcel.input = r'.parcel.input ∧ r.parcel.destination = r'.parcel.destination) ∧
    (r.key.bytes = r'.key.bytes ∧ r.target.bytes = r'.target.bytes ↔ r.parcel = r'.parcel) ∧
    (r.parcel = r'.parcel ↔ r = r') ∧
    Parcel.ofRecords r.key.bytes r.target.bytes = r.parcel ∧
    r.key.bytes.length = 20 ∧
    (∀ t : Target, t.bytes.length = 20 ∧ Target.ofBytes t.bytes = t ∧
      fieldAt t.bytes 16 2 = littleEndian 2 t.storedEtherType.toNat ∧
      ofBigEndian (fieldAt t.bytes 16 2) = t.etherType.toNat ∧ t.etherProtocol = t.etherType) ∧
    (∀ c : Counters, c.bytes.length = 48 ∧ Counters.ofBytes c.bytes = c) ∧
    ∀ q : Quota, (Quota.bytes q).length = 8 ∧ Quota.ofBytes (Quota.bytes q) = q := by
  have hkey : r.key.bytes = r'.key.bytes ↔ r.upstream = r'.upstream ∧ r.neighbor = r'.neighbor := by
    constructor
    · intro h
      exact RuleKey.mk.inj (RuleKey.eq_of_bytes_eq h)
    · rintro ⟨hupstream, hneighbor⟩
      rw [Rule.key, Rule.key, hupstream, hneighbor]
  have hparcel : r.key.bytes = r'.key.bytes ↔
      r.parcel.input = r'.parcel.input ∧ r.parcel.destination = r'.parcel.destination := by
    constructor
    · intro h
      have hread : RuleKey.mk r.parcel.input r.parcel.destination =
          ⟨r'.parcel.input, r'.parcel.destination⟩ := by
        rw [← r.ofBytes_key, ← r'.ofBytes_key, h]
      exact RuleKey.mk.inj hread
    · rintro ⟨hinput, hdestination⟩
      exact hkey.mpr ⟨hinput, hdestination⟩
  have hrecords : r.key.bytes = r'.key.bytes ∧ r.target.bytes = r'.target.bytes ↔
      r.parcel = r'.parcel := by
    constructor
    · -- The parcel is read off the records, so that the same records make the same parcel.
      rintro ⟨hk, ht⟩
      rw [← r.ofRecords_eq_parcel, ← r'.ofRecords_eq_parcel, hk, ht]
    · intro h
      obtain rfl := Rule.eq_of_parcel_eq h
      exact ⟨rfl, rfl⟩
  have hrule : r.parcel = r'.parcel ↔ r = r' := ⟨Rule.eq_of_parcel_eq, congrArg Rule.parcel⟩
  refine ⟨hkey, hparcel, hrecords, hrule, r.ofRecords_eq_parcel, r.key.length_bytes, fun t => ?_,
    fun c => ?_, fun q => ?_⟩
  · exact ⟨t.length_bytes, t.ofBytes_bytes, t.fieldAt_etherType, t.ofBigEndian_etherType,
      t.etherProtocol_eq⟩
  · exact ⟨c.length_bytes, c.ofBytes_bytes⟩
  · exact ⟨length_littleEndian .., Quota.ofBytes_bytes q⟩

end FastPath
