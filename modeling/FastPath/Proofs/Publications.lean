import FastPath.Proofs.Encoding
import FastPath.Publication

/-!
# Publications and their lines

Whoever reads what is published cuts it at line feeds and reads each line as one JSON object. That
gives back every publication, whatever names and counters it holds (`Publication.lines_read_back`):
a text on one line holds no control character, since those of a string are escaped
(`Json.printable_compact`), and no two fields of an object share a name, although a share has the
fields of its traffic among its own.
-/

namespace FastPath

open Json Text

namespace Json

/-! ## Control characters -/

/-- No character stands before the blank, so none is a line feed. -/
def Printable (cs : List Char) : Prop := ∀ c ∈ cs, 0x20 ≤ c.toNat

instance (cs : List Char) : Decidable (Printable cs) :=
  List.decidableBAll (fun c : Char => 0x20 ≤ c.toNat) cs

theorem Printable.newline_notMem {cs : List Char} (h : Printable cs) : '\n' ∉ cs :=
  fun hmem => absurd (h _ hmem) (by decide)

theorem Printable.append {cs ds : List Char} (h : Printable cs) (h' : Printable ds) :
    Printable (cs ++ ds) :=
  List.forall_mem_append.mpr ⟨h, h'⟩

theorem printable_flatMap {α : Type} {l : List α} {f : α → List Char}
    (h : ∀ a ∈ l, Printable (f a)) : Printable (l.flatMap f) := by
  intro c hc
  obtain ⟨a, ha, hc⟩ := List.mem_flatMap.mp hc
  exact h a ha c hc

/-- What a character is written as inside a string is printable: a control character is written by
a letter or by its number. -/
theorem printable_escapeChar (c : Char) : Printable (escapeChar c) := by
  have hdigit : ∀ n : Fin 16, Printable [hexDigit n] := by decide
  unfold escapeChar
  split
  · rename_i e hletter
    unfold escapeLetter? at hletter
    repeat (split at hletter; next hc => subst hc; cases hletter; decide)
    cases hletter
  · split
    · have hnumber : Printable ['\\', 'u', '0', '0'] := by decide
      have hhigh := hdigit ⟨c.toNat / 16, by omega⟩
      have hlow := hdigit ⟨c.toNat % 16, by omega⟩
      exact hnumber.append (hhigh.append hlow)
    · rename_i hc
      exact List.forall_mem_singleton.mpr (Nat.le_of_not_lt hc)

/-- The digits of a number are printable, and so is its sign. -/
theorem printable_wholeText (n : Int) : Printable (wholeText n) := by
  have hdigits : Printable (Nat.toDigits 10 n.natAbs) := fun c hc => by
    have hdigit : c.isDigit := Nat.isDigit_of_mem_toDigits (by decide) (by decide) hc
    exact Nat.le_trans (by decide) (Char.isDigit_iff_toNat.mp hdigit).1
  unfold wholeText
  split
  · exact List.forall_mem_cons.mpr ⟨by decide, hdigits⟩
  · exact hdigits

/-- What a token is written as is printable. -/
theorem printable_render (t : Token) : Printable t.render := by
  cases t with
  | string s =>
    have hquote : Printable ['\x22'] := by decide
    exact (hquote.append (printable_flatMap fun c _ => printable_escapeChar c)).append hquote
  | scalar v =>
    cases v with
    | bool b => cases b <;> decide
    | whole n => exact printable_wholeText n
    | _ => show Printable ['n', 'u', 'l', 'l']; decide
  | _ => decide

/-- A text on one line is printable. -/
theorem printable_compact (v : Json) : Printable v.compact.toList := by
  rw [compact, String.toList_ofList]
  exact printable_flatMap fun t _ => printable_render t

/-- Read a list whose items are all of one kind. -/
def items? {α : Type} (decode : Json → Option α) : Json → Option (List α)
  | array vs => vs.mapM decode
  | _ => none

/-- A list is read back if its items are. -/
theorem items?_array {α : Type} {decode : Json → Option α} {encode : α → Json}
    (h : ∀ a, decode (encode a) = some a) (as : List α) :
    items? decode (array (as.map encode)) = some as := by
  induction as with
  | nil => rfl
  | cons a as ih =>
    have hrest : (as.map encode).mapM decode = some as := ih
    rw [items?, List.map_cons, List.mapM_cons, h, hrest]
    rfl

end Json

/-! ## A reader of lines -/

/-- Read the name of an owner. -/
def Owner.ofJson? : Json → Option Owner
  | .string "interface" => some interface
  | .string "tethering" => some tethering
  | _ => none

/-- The fields of a share. -/
def Share.fieldNames : List String :=
  ["iface", "owner", "rx_bytes", "rx_packets", "tx_bytes", "tx_packets"]

/-- Read a share from an object that has each of its fields once. -/
def Share.ofJson? : Json → Option Share
  | .object fs => do
    let fs ← (Json.object fs).fields? fieldNames
    return {
      iface := ← required fs "iface" text?
      owner := ← required fs "owner" Owner.ofJson?
      traffic := {
        rxBytes := ← required fs "rx_bytes" word64?
        rxPackets := ← required fs "rx_packets" word64?
        txBytes := ← required fs "tx_bytes" word64?
        txPackets := ← required fs "tx_packets" word64? } }
  | _ => none

namespace Publication

/-- Read a publication and its time from an object that has each of their fields once. -/
def ofJson? : Json → Option (String × Publication)
  | .object fs =>
    match fs.lookup "type" with
    | some (.string "stats") => do
      let fs ← (Json.object fs).fields? ["type", "timestamp", "per_iface", "per_owner"]
      return (← required fs "timestamp" text?,
        .stats (← required fs "per_iface" (items? Share.ofJson?))
          (← required fs "per_owner" (items? Share.ofJson?)))
    | some (.string "alert") => do
      let fs ← (Json.object fs).fields? ["type", "timestamp"]
      return (← required fs "timestamp" text?, .alert)
    | _ => none
  | _ => none

/-- Read a line. -/
def ofLine? (line : String) : Option (String × Publication) :=
  (Json.read? line).bind ofJson?

end Publication

/-- An owner is read back from its name. -/
theorem Owner.ofJson?_text (o : Owner) : ofJson? (.string o.text) = some o := by
  cases o <;> rfl

/-- A share is read back. -/
theorem Share.ofJson?_toJson (s : Share) : ofJson? s.toJson = some s := by
  obtain ⟨fs, hjson, hnames, hiface, howner, hrxBytes, hrxPackets, htxBytes, htxPackets⟩ :
      ∃ fs, s.toJson = .object fs ∧ fs.map Prod.fst = fieldNames ∧
        ("iface", .string s.iface) ∈ fs ∧ ("owner", .string s.owner.text) ∈ fs ∧
        ("rx_bytes", ofWord64 s.traffic.rxBytes) ∈ fs ∧
        ("rx_packets", ofWord64 s.traffic.rxPackets) ∈ fs ∧
        ("tx_bytes", ofWord64 s.traffic.txBytes) ∈ fs ∧
        ("tx_packets", ofWord64 s.traffic.txPackets) ∈ fs :=
    ⟨_, rfl, rfl, by simp [Traffic.fields]⟩
  have hnodup : (fs.map Prod.fst).Nodup := by
    rw [hnames]
    decide
  simp only [hjson, ofJson?, ← hnames, fields?_object rfl hnodup,
    required_eq hnodup hiface (text?_string _), required_eq hnodup howner s.owner.ofJson?_text,
    required_eq hnodup hrxBytes (word64?_ofWord64 _),
    required_eq hnodup hrxPackets (word64?_ofWord64 _),
    required_eq hnodup htxBytes (word64?_ofWord64 _),
    required_eq hnodup htxPackets (word64?_ofWord64 _),
    Option.bind_eq_bind, Option.bind_some, Option.pure_def]

namespace Publication

/-- A publication is read back. -/
theorem ofJson?_toJson (timestamp : String) (p : Publication) :
    ofJson? (p.toJson timestamp) = some (timestamp, p) := by
  have hshares := items?_array Share.ofJson?_toJson
  cases p with
  | stats perInterface perOwner =>
    obtain ⟨fs, hjson, hnames, hkind, htime, hinterfaces, howners⟩ :
        ∃ fs, (stats perInterface perOwner).toJson timestamp = .object fs ∧
          fs.map Prod.fst = ["type", "timestamp", "per_iface", "per_owner"] ∧
          fs.lookup "type" = some (.string "stats") ∧
          ("timestamp", .string timestamp) ∈ fs ∧
          ("per_iface", .array (perInterface.map Share.toJson)) ∈ fs ∧
          ("per_owner", .array (perOwner.map Share.toJson)) ∈ fs :=
      ⟨_, rfl, rfl, rfl, by simp⟩
    have hnodup : (fs.map Prod.fst).Nodup := by
      rw [hnames]
      decide
    simp only [hjson, ofJson?, hkind, ← hnames, fields?_object rfl hnodup,
      required_eq hnodup htime (text?_string _), required_eq hnodup hinterfaces (hshares _),
      required_eq hnodup howners (hshares _), Option.bind_eq_bind, Option.bind_some,
      Option.pure_def]
  | alert =>
    obtain ⟨fs, hfs, -, htime⟩ := exists_two "type" "timestamp" (by decide)
      (text?_string "alert") (text?_string timestamp)
    have hkind : [("type", Json.string "alert"), ("timestamp", .string timestamp)].lookup "type" =
        some (.string "alert") := rfl
    simp only [toJson, ofJson?, hkind, hfs, htime, Option.bind_eq_bind, Option.bind_some,
      Option.pure_def]

/-- What a publication is written as can be written. -/
theorem isWritable_toJson (timestamp : String) (p : Publication) :
    (p.toJson timestamp).isWritable := by
  have hshares (l : List Share) : areWritable (l.map Share.toJson) := by
    refine areWritable_of_forall fun v hv => ?_
    obtain ⟨s, -, rfl⟩ := List.mem_map.mp hv
    simp [Share.toJson, Traffic.fields, isWritable, fieldsWritable, isWritable_ofWord64]
  cases p <;> simp [toJson, isWritable, fieldsWritable, hshares]

/-- A publication is read back from its line. -/
theorem ofLine?_compact (timestamp : String) (p : Publication) :
    ofLine? (p.toJson timestamp).compact = some (timestamp, p) := by
  rw [ofLine?, read?_compact (isWritable_toJson timestamp p), Option.bind_some, ofJson?_toJson]

/-! ## Many publications -/

/-- A page in memory, on which every line can be written. -/
def page : Outlet (StateM String) where
  write text := do
    modify (· ++ text)
    return .ok ()
  flush := return .ok ()

/-- Publish one after another, each at its time. -/
def sendAll {m : Type → Type} [Monad m] (out : Outlet m) (ps : List (String × Publication)) :
    m (List (Option Notice)) :=
  ps.mapM fun (timestamp, p) => p.send out timestamp

/-- The lines of publications. -/
def lines (ps : List (String × Publication)) : List (List Char) :=
  ps.map fun (timestamp, p) => (p.toJson timestamp).compact.toList

/-- A publication leaves its line on the page. -/
theorem run_send (timestamp : String) (p : Publication) (s : String) :
    (p.send page timestamp).run s = (none, s ++ p.line timestamp) :=
  rfl

/-- Publications leave their lines on the page, each with a line feed after it. -/
theorem run_sendAll (ps : List (String × Publication)) (s : String) :
    ∃ text : String, (sendAll page ps).run s = (ps.map fun _ => none, s ++ text) ∧
      text.toList = (lines ps).flatMap fun line => line ++ ['\n'] := by
  induction ps generalizing s with
  | nil => exact ⟨"", by simp [sendAll]; rfl, rfl⟩
  | cons p ps ih =>
    obtain ⟨text, hrun, htext⟩ := ih (s ++ p.2.line p.1)
    refine ⟨p.2.line p.1 ++ text, ?_, ?_⟩
    · have hfirst : sendAll page (p :: ps) =
          p.2.send page p.1 >>= fun n => sendAll page ps >>= fun ns => pure (n :: ns) :=
        List.mapM_cons
      have hrest : (sendAll page ps >>= fun ns => pure (none :: ns)).run (s ++ p.2.line p.1) =
          (none :: ps.map fun _ => none, s ++ p.2.line p.1 ++ text) := by
        rw [StateT.run_bind, hrun]
        rfl
      rw [hfirst, StateT.run_bind, run_send, ← String.append_assoc]
      exact hrest
    · rw [String.toList_append, htext, line, String.toList_append]
      rfl

/-- Lines are cut apart at the line feeds after them. -/
theorem splitOn_lines {ls : List (List Char)} (h : ∀ l ∈ ls, '\n' ∉ l) :
    splitOn '\n' (ls.flatMap fun l => l ++ ['\n']) = ls ++ [[]] := by
  induction ls with
  | nil => rfl
  | cons l ls ih =>
    obtain ⟨hl, hls⟩ := List.forall_mem_cons.mp h
    have hone : splitOn '\n' l = [l] := by
      have hsplit := splitOn_append hl []
      rw [List.append_nil] at hsplit
      rw [hsplit, splitOn_nil, List.modifyHead_cons, List.append_nil]
    rw [List.flatMap_cons, List.append_assoc, List.singleton_append, splitOn_append_cons, hone,
      ih hls]
    rfl

/-- Publications that all can be written come out as one line each and nothing else, and each line
is read back as the publication that it was written for, with its time. -/
theorem lines_read_back (ps : List (String × Publication)) :
    ∃ out : String, (sendAll page ps).run "" = (ps.map fun _ => none, out) ∧
      ∃ parts : List (List Char), out.toList.splitOn '\n' = parts ++ [[]] ∧
        parts.map (fun line => ofLine? (String.ofList line)) = ps.map some := by
  obtain ⟨text, hrun, htext⟩ := run_sendAll ps ""
  have hclean : ∀ l ∈ lines ps, '\n' ∉ l := by
    intro l hl
    obtain ⟨p, -, rfl⟩ := List.mem_map.mp hl
    exact (printable_compact _).newline_notMem
  refine ⟨text, by simpa using hrun, lines ps, ?_, ?_⟩
  · rw [← splitOn_eq, htext, splitOn_lines hclean]
  · rw [lines, List.map_map]
    refine List.map_congr_left fun (timestamp, p) _ => ?_
    rw [Function.comp_apply, String.ofList_toList, ofLine?_compact]

end Publication

end FastPath
