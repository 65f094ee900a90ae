import FastPath.Rule
import FastPath.Quota

/-!
# Records of the kernel tables

The kernel program and the controller share tables whose keys and values are byte records of fixed
layout. Numbers are little-endian and addresses are in network order. So is the EtherType of a
target, which is kept with its bytes swapped for that and swapped back when it is asked for. Each
record is written by `bytes`, and `fieldAt` takes one of its fields back out.
-/

namespace FastPath

open Std

/-- A byte record. -/
abbrev Bytes := List UInt8

/-- The lowest `width` bytes of a number, least significant first. -/
def littleEndian : (width : Nat) → Nat → Bytes
  | 0, _ => []
  | w + 1, n => UInt8.ofNat (n % 256) :: littleEndian w (n / 256)

/-- The number with the given bytes, least significant first. -/
def ofLittleEndian : Bytes → Nat
  | [] => 0
  | b :: bs => b.toNat + 256 * ofLittleEndian bs

/-- The number with the given bytes, most significant first. -/
def ofBigEndian (bytes : Bytes) : Nat :=
  ofLittleEndian bytes.reverse

/-- A half word with its bytes in the opposite order: how a little-endian machine keeps one that is
in network order, and how it gets it back. -/
def swapBytes (w : UInt16) : UInt16 :=
  .ofNat (ofBigEndian (littleEndian 2 w.toNat))

/-- The field of a record that starts at an offset. -/
def fieldAt (record : Bytes) (offset width : Nat) : Bytes :=
  (record.drop offset).take width

/-- The key of a record that is only about an interface. -/
def indexBytes (i : IfIndex) : Bytes := littleEndian 4 i.toNat

/-- Key of the downstream table: traffic that arrives on an upstream for a neighbor. -/
structure RuleKey where
  upstream : IfIndex
  neighbor : Ipv6
deriving DecidableEq

namespace RuleKey

/-- Keys are ordered by index, then by address. -/
instance : Ord RuleKey := ⟨compareLex (compareOn upstream) (compareOn neighbor)⟩

instance : TransOrd RuleKey :=
  inferInstanceAs (TransCmp (compareLex (compareOn upstream) (compareOn neighbor)))

instance : LawfulEqOrd RuleKey where
  eq_of_compare {a b} h := by
    have h : compareLex (compareOn upstream) (compareOn neighbor) a b = .eq := h
    simp only [compareLex, compareOn, Ordering.then_eq_eq, Std.compare_eq_iff_eq] at h
    cases a; cases b; simp_all

/-- Index, then address. -/
def bytes (k : RuleKey) : Bytes := indexBytes k.upstream ++ k.neighbor.bytes

end RuleKey

/-- Where packets go: the interface they leave by and their new link header, with the EtherType that
the target was made for. -/
structure Target where
  ifIndex : IfIndex
  destination : Mac
  source : Mac
  etherType : UInt16
  mtu : UInt16
deriving DecidableEq

namespace Target

/-- The EtherType of version 6. -/
def ipv6EtherType : UInt16 := 0x86dd

/-- The path MTU of offloaded flows. -/
def defaultMtu : UInt16 := 1500

/-- The EtherType as it is kept, in network order. -/
def storedEtherType (t : Target) : UInt16 := swapBytes t.etherType

/-- The EtherType as it is asked for, in the order of the machine again. -/
def etherProtocol (t : Target) : UInt16 := swapBytes t.storedEtherType

/-- Index, destination, source, EtherType as it is kept, MTU. -/
def bytes (t : Target) : Bytes :=
  indexBytes t.ifIndex ++ t.destination.octets.toList ++ t.source.octets.toList ++
    littleEndian 2 t.storedEtherType.toNat ++ littleEndian 2 t.mtu.toNat

/-- The target of an upstream binding: the upstream itself, with no addresses filled in. -/
def binding (upstream : IfIndex) : Target :=
  ⟨upstream, .zero, .zero, ipv6EtherType, defaultMtu⟩

end Target

/-- The key under which a rule is installed. -/
def Rule.key (r : Rule) : RuleKey := ⟨r.upstream, r.neighbor⟩

/-- The target that a rule installs. -/
def Rule.target (r : Rule) : Target :=
  ⟨r.downstream, r.neighborMac, r.downstreamMac, Target.ipv6EtherType, Target.defaultMtu⟩

/-- The counters that the kernel keeps for an upstream. -/
structure Counters where
  rxPackets : UInt64
  rxBytes : UInt64
  rxErrors : UInt64
  txPackets : UInt64
  txBytes : UInt64
  txErrors : UInt64
deriving DecidableEq

namespace Counters

/-- Counters of a new entry. -/
def zero : Counters := ⟨0, 0, 0, 0, 0, 0⟩

/-- The counters in the order of the record. -/
def words (c : Counters) : List UInt64 :=
  [c.rxPackets, c.rxBytes, c.rxErrors, c.txPackets, c.txBytes, c.txErrors]

/-- Six words. -/
def bytes (c : Counters) : Bytes :=
  c.words.flatMap fun w => littleEndian 8 w.toNat

/-- The traffic that the counters stand for; errors are not traffic. -/
def traffic (c : Counters) : Traffic :=
  ⟨c.rxBytes, c.rxPackets, c.txBytes, c.txPackets⟩

/-- Counters with the given traffic and no errors. -/
def ofTraffic (t : Traffic) : Counters :=
  ⟨t.rxPackets, t.rxBytes, 0, t.txPackets, t.txBytes, 0⟩

end Counters

/-- The record of a limit. -/
def Quota.bytes (q : Quota) : Bytes := littleEndian 8 q.toUInt64.toNat

/-- Key of the version 4 tables, which the kernel fills and the controller only clears. -/
structure FlowKey where
  ifIndex : IfIndex
  destinationMac : Mac
  protocol : UInt8
  padding : UInt8
  source : Vector UInt8 4
  destination : Vector UInt8 4
  sourcePort : UInt16
  destinationPort : UInt16
deriving DecidableEq

namespace FlowKey

/-- Keys are ordered field by field. -/
def order : FlowKey → FlowKey → Ordering :=
  compareLex (compareOn ifIndex) <| compareLex (compareOn fun k => k.destinationMac.octets) <|
    compareLex (compareOn protocol) <| compareLex (compareOn padding) <|
    compareLex (compareOn source) <| compareLex (compareOn destination) <|
    compareLex (compareOn sourcePort) (compareOn destinationPort)

instance : Ord FlowKey := ⟨order⟩

instance : TransOrd FlowKey := by
  unfold TransOrd
  show TransCmp order
  unfold order
  infer_instance

instance : LawfulEqOrd FlowKey where
  eq_of_compare {a b} h := by
    have h : order a b = .eq := h
    simp only [order, compareLex, compareOn, Ordering.then_eq_eq, Std.compare_eq_iff_eq] at h
    obtain ⟨h1, h2, h3, h4, h5, h6, h7, h8⟩ := h
    have h2 : a.destinationMac = b.destinationMac := congrArg Mac.mk h2
    cases a; cases b; simp_all

/-- Index, address, protocol, padding, addresses, ports. -/
def bytes (k : FlowKey) : Bytes :=
  indexBytes k.ifIndex ++ k.destinationMac.octets.toList ++ [k.protocol, k.padding] ++
    k.source.toList ++ k.destination.toList ++ littleEndian 2 k.sourcePort.toNat ++
    littleEndian 2 k.destinationPort.toNat

end FlowKey

/-- Value of the version 4 tables: a target, the addresses and ports to write, and the time of last
use. -/
structure Flow where
  target : Target
  source : Ipv6
  destination : Ipv6
  sourcePort : UInt16
  destinationPort : UInt16
  lastUsed : UInt64
deriving DecidableEq

/-- Target, addresses, ports, time of last use. -/
def Flow.bytes (f : Flow) : Bytes :=
  f.target.bytes ++ f.source.bytes ++ f.destination.bytes ++ littleEndian 2 f.sourcePort.toNat ++
    littleEndian 2 f.destinationPort.toNat ++ littleEndian 8 f.lastUsed.toNat

end FastPath
