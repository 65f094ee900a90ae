/-!
# Forwarded traffic

`Traffic` counts bytes and packets in both directions, either since the counters started or since an
earlier reading. Sums saturate: a counter that would pass the largest word stays there.
-/

namespace FastPath

/-- The index by which the kernel knows an interface. -/
abbrev IfIndex := UInt32

/-- The sum of two words, or the largest word when the sum is beyond it. -/
def satAdd (a b : UInt64) : UInt64 :=
  if a.toNat + b.toNat < UInt64.size then a + b else UInt64.ofNat (UInt64.size - 1)

theorem toNat_satAdd (a b : UInt64) :
    (satAdd a b).toNat = min (a.toNat + b.toNat) (UInt64.size - 1) := by
  unfold satAdd
  split
  · rw [UInt64.toNat_add, Nat.mod_eq_of_lt ‹_›]
    omega
  · have : (UInt64.ofNat (UInt64.size - 1)).toNat = UInt64.size - 1 := by decide
    omega

/-- The growth of one counter. A reading below its baseline means that the counter was created anew,
so all of the reading is growth. -/
def growth (new old : UInt64) : UInt64 :=
  if old ≤ new then new - old else new

/-- Bytes and packets received from the upstream and sent to it. -/
structure Traffic where
  rxBytes : UInt64
  rxPackets : UInt64
  txBytes : UInt64
  txPackets : UInt64
deriving DecidableEq, Inhabited

namespace Traffic

/-- No traffic. -/
def zero : Traffic := ⟨0, 0, 0, 0⟩

/-- The growth of every counter since an earlier reading. -/
def since (new old : Traffic) : Traffic where
  rxBytes := growth new.rxBytes old.rxBytes
  rxPackets := growth new.rxPackets old.rxPackets
  txBytes := growth new.txBytes old.txBytes
  txPackets := growth new.txPackets old.txPackets

/-- Traffic taken together, counter by counter. -/
def add (a b : Traffic) : Traffic where
  rxBytes := satAdd a.rxBytes b.rxBytes
  rxPackets := satAdd a.rxPackets b.rxPackets
  txBytes := satAdd a.txBytes b.txBytes
  txPackets := satAdd a.txPackets b.txPackets

/-- Bytes in both directions. -/
def totalBytes (t : Traffic) : UInt64 :=
  satAdd t.rxBytes t.txBytes

end Traffic

/-- The traffic of one interface. -/
structure InterfaceTraffic where
  ifIndex : IfIndex
  traffic : Traffic
deriving DecidableEq

/-- Whom published traffic is attributed to. -/
inductive Owner
  /-- The interface itself. -/
  | interface
  /-- Tethering as a whole. -/
  | tethering
deriving DecidableEq

/-- One published share of traffic. -/
structure Share where
  iface : String
  owner : Owner
  traffic : Traffic
deriving DecidableEq

end FastPath
