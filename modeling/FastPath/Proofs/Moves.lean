import FastPath.Proofs.Steps

/-!
# What steps do to rules and accounts

As far as rules and accounts go there are few things that a step can do: a rule is added or removed
together with its count, the counters of an upstream are folded in, an upstream is named, readings
are stored, traffic is published, or the controller rests. `Steps.preserves` reduces what holds of
every controller to these moves.
-/

namespace FastPath

open Relation

namespace Controller

open Platform

/-- One change of rules or accounts with the backend `b`, which names upstreams as `names`
allows. -/
inductive Move (b : Backend) (names : IfIndex → String → Prop) : Controller → Controller → Prop
  | rest {c c' : Controller} (h : Rests b c c') : Move b names c c'
  | add {c : Controller} {d : DownstreamId} {rule : Rule} {p : Platform}
    (hfree : c.registry.find? d rule.neighbor = none)
    (hs : c.platform.Serves (.addRule rule) (c.platform.stores.install b rule) p) :
    Move b names c { c with
      platform := p.note (.ruleAdded rule d)
      registry := c.registry.push d rule
      upstreams := c.upstreams.acquire rule.upstream }
  | remove {c : Controller} {d : DownstreamId} {n : Ipv6} {rule : Rule} {p : Platform}
    (hfind : c.registry.find? d n = some rule)
    (hs : c.platform.Serves (.removeRule rule) (c.platform.stores.uninstall b rule) p) :
    Move b names c { c with
      platform := p.note (.ruleRemoved rule d)
      registry := c.registry.erase d n
      upstreams := c.upstreams.release rule.upstream }
  | fold {c : Controller} {u : IfIndex} {p : Platform}
    (hs : c.platform.Serves (.readAndClear u)
        ((c.platform.stores.closeCounters b u).dropLimit b u) p ∨
      c.platform.Serves (.readAndClear u) (c.platform.stores.closeCounters b u) p) :
    Move b names c { c with
      platform := p
      upstreams := c.upstreams.foldFinal
        ⟨c.platform.stores.reportedAs b u, c.platform.stores.counted b u⟩ }
  | forget {c : Controller} {d : DownstreamId} (h : c.rulesFor d = []) :
    Move b names c { c with registry := c.registry.forget d }
  | name {c : Controller} {i : IfIndex} {name : String} (h : names i name) :
    Move b names c { c with upstreams := c.upstreams.setName i name }
  | read {c : Controller} {p : Platform}
    (hs : c.platform.Serves .readAll c.platform.stores p) :
    Move b names c { c with
      platform := p
      upstreams := (c.platform.stores.readings b).foldl UpstreamTable.recordReading c.upstreams }
  | publish (c : Controller) : Move b names c c.publish

variable {b : Backend} {names : IfIndex → String → Prop} {c c' : Controller}

/-- A rule that is added is a move, and the rest of the step is none. -/
theorem moves_install (d : DownstreamId) (rule : Rule) (c : Controller) :
    ReflTransGen (Move b names) c (c.install b d rule).2 := by
  rcases install_cases b d rule c with ⟨p, h, hp⟩ | ⟨hfree, p, q, hs, hq, h⟩ <;> rw [h]
  · have hrest : Rests b c { c with platform := p } := ⟨rfl, rfl, fun _ => rfl, hp.spares b⟩
    exact .single (.rest hrest)
  · have hadd : Move b names c { c with
        platform := p.note (.ruleAdded rule d)
        registry := c.registry.push d rule
        upstreams := c.upstreams.acquire rule.upstream } := .add hfree hs
    exact .tail (.single hadd) (.rest ⟨rfl, rfl, fun _ => rfl, hq⟩)

/-- A rule that is removed is a move, and folding in the counters of its upstream is another. -/
theorem moves_uninstall (d : DownstreamId) (n : Ipv6) (c : Controller) :
    ReflTransGen (Move b names) c (c.uninstall b d n).2 := by
  rcases uninstall_cases b d n c with ⟨p, h, hp⟩ | ⟨rule, hfind, p, q, hs, hq, h⟩ <;> rw [h]
  · have hrest : Rests b c { c with platform := p } := ⟨rfl, rfl, fun _ => rfl, hp.spares b⟩
    exact .single (.rest hrest)
  · obtain ⟨p', hp', hrelease⟩ := release_cases b rule.upstream
      { c with platform := q, registry := c.registry.erase d n }
    have hremove : ReflTransGen (Move b names) c { c with
        platform := p'
        registry := c.registry.erase d n
        upstreams := c.upstreams.release rule.upstream } :=
      .tail (.single (.remove hfind hs)) (.rest ⟨rfl, rfl, fun _ => rfl, hq.trans hp'⟩)
    -- The counters of the upstream are folded in with its last rule only.
    rcases hrelease with hrelease | ⟨-, q', hs', hrelease⟩ <;> rw [hrelease]
    · exact hremove
    · exact hremove.tail (.fold hs')

/-- Every chore is a sequence of moves. -/
theorem Chore.moves (h : Chore b c c') : ReflTransGen (Move b names) c c' := by
  cases h with
  | install d rule => exact moves_install d rule c
  | uninstall d n => exact moves_uninstall d n c
  | forget d h => exact .single (.forget h)
  | poll =>
    rcases poll_cases b c with hr | ⟨p, hs, hr⟩
    · exact .single (.rest (hr.rests b))
    · exact .tail (.single (.read hs)) (.rest (hr.rests b))
  | publish => exact .single (.publish c)
  | still h => exact .single (.rest (h.idle.rests b))

/-- Every step is a sequence of moves. -/
theorem Step.moves (h : Step b names c c') : ReflTransGen (Move b names) c c' := by
  cases h with
  | chore h => exact h.moves
  | nameUpstream i name h =>
    rcases nameUpstream_cases b i name c with hr | ⟨hi, hn, hr⟩
    · exact .single (.rest hr)
    · exact .tail (.single (.name (h hi hn))) (.rest hr)
  | limit iface q => exact .single (.rest (rests_limit iface q c))

/-- What every move preserves is preserved by any number of steps. -/
theorem Steps.preserves {I : Controller → Prop}
    (hI : ∀ {c c'}, Move b names c c' → I c → I c') (h : Steps b names c c') (hc : I c) : I c' := by
  -- A step is a sequence of moves, so there are two sequences to go along.
  have hmoves : ∀ {c c'}, ReflTransGen (Move b names) c c' → I c → I c' := by
    intro c c' h hc
    induction h with
    | refl => exact hc
    | tail _ h ih => exact hI h ih
  induction h with
  | refl => exact hc
  | tail _ h ih => exact hmoves h.moves ih

/-! ## The journal grows -/

/-- A move takes nothing out of the journal. -/
theorem Move.past_suffix (h : Move b names c c') : c.platform.past <:+ c'.platform.past := by
  cases h with
  | rest h => exact h.platform.quiet.past_suffix
  | add hfree hs => exact hs.quiet.past_suffix.trans (List.suffix_cons ..)
  | remove hfind hs => exact hs.quiet.past_suffix.trans (List.suffix_cons ..)
  | fold hs => exact hs.elim (·.quiet.past_suffix) (·.quiet.past_suffix)
  | forget => exact List.suffix_refl _
  | name => exact List.suffix_refl _
  | read hs => exact hs.quiet.past_suffix
  | publish =>
    obtain ⟨p, hpublish, ⟨-, rfl⟩ | rfl⟩ := publish_cases c <;> rw [hpublish]
    · exact List.suffix_cons ..
    · exact List.suffix_cons ..

/-- Nor does a step. -/
theorem Step.past_suffix (h : Step b names c c') : c.platform.past <:+ c'.platform.past := by
  have hmoves : ReflTransGen (Move b names) c c' := h.moves
  clear h
  induction hmoves with
  | refl => exact List.suffix_refl _
  | tail _ h ih => exact ih.trans h.past_suffix

/-- Nor do any number of steps. -/
theorem Steps.past_suffix (h : Steps b names c c') : c.platform.past <:+ c'.platform.past := by
  induction h with
  | refl => exact List.suffix_refl _
  | tail _ h ih => exact ih.trans h.past_suffix

end Controller

end FastPath
