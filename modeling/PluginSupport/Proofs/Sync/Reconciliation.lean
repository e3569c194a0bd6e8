import PluginSupport.Proofs.Address.Difference
import PluginSupport.Proofs.Address.Printing
import PluginSupport.Proofs.Sync.Versions

/-!
# Reconciling published addresses

A transport can hold the addresses of an interface: each is stored under a key of its own, its text
behind a common prefix, with the text as the value. `Hub.reconciliation` publishes the current
addresses and carries the difference to the desired ones out: first what has to go, then what has to
come.

The keys are those of a set, the difference is one of multisets. `Hub.Publishes` is what each action
keeps: the transport holds some addresses in this form and nothing else. An address that comes
joins them, one that goes must be among them. Both need that different addresses have different keys
(`NetAddr.publishedKey_injective`).

Main result: `reconcile_exact`.
-/
namespace PluginSupport

open Utf8 (Bytes)

/-! ## Addresses in a store -/

namespace NetAddr

/-- Prefix of the keys of addresses. -/
def publishedStem : String := "addrs/"

/-- Key of an address in a store. -/
def publishedKey (addr : NetAddr) : String :=
  publishedStem ++ addr.text

/-- Value of an address in a store. -/
def publishedValue (addr : NetAddr) : Bytes :=
  Utf8.encode addr.text

theorem publishedKey_injective : Function.Injective publishedKey := by
  intro addr other same
  have texts := congrArg String.toList same
  simp only [publishedKey, String.toList_append, List.append_cancel_left_eq] at texts
  exact text_injective (String.toList_inj.mp texts)

theorem publishedStem_isPrefix (addr : NetAddr) :
    publishedStem.toList <+: addr.publishedKey.toList :=
  ⟨addr.text.toList, by rw [publishedKey, String.toList_append]⟩

end NetAddr

/-! ## What is left of the current addresses -/

namespace AddressDiff

/-- No address has to go twice if none is there twice. -/
theorem nodup_toDelete {current : List NetAddr} (distinct : current.Nodup)
    (desired : List NetAddr) : (between desired current).toDelete.Nodup := by
  refine List.nodup_iff_count_le_one.mpr fun addr => ?_
  have once := List.nodup_iff_count_le_one.mp distinct addr
  rw [count_toDelete]
  omega

/-- What is left of the current addresses, with what is added, are the desired ones. -/
theorem left_or_added_iff {current : List NetAddr} (distinct : current.Nodup)
    (desired : List NetAddr) (addr : NetAddr) :
    (addr ∈ current ∧ addr ∉ (between desired current).toDelete) ∨
      addr ∈ (between desired current).toAdd ↔ addr ∈ desired := by
  have once := List.nodup_iff_count_le_one.mp distinct addr
  simp only [← List.count_pos_iff, count_toAdd, count_toDelete]
  omega

end AddressDiff

namespace Hub

variable {hub : Hub} {handle : String} {number : Nat} {live : NetAddr → Prop}

/-- Publishes an address. -/
def announce (handle : String) (addr : NetAddr) : Action :=
  .publish handle addr.publishedKey (some addr.publishedValue)

/-- Deletes an address. -/
def withdraw (handle : String) (addr : NetAddr) : Action :=
  .publish handle addr.publishedKey none

/-- Publishes the current addresses, then deletes and publishes what leads to the desired ones. -/
def reconciliation (handle : String) (current desired : List NetAddr) : List Action :=
  let diff := AddressDiff.between desired current
  current.map (announce handle) ++
    (diff.toDelete.map (withdraw handle) ++ diff.toAdd.map (announce handle))

/-! ## One publication -/

/-- Whether the transport behind a handle is open and holds some addresses and nothing else. -/
structure Publishes (hub : Hub) (handle : String) (number : Nat) (live : NetAddr → Prop) :
    Prop where
  tidy : hub.Tidy
  found : hub.transport? handle = some number
  isOpen : (hub.transports number).closed = false
  get_eq_some_iff : ∀ key value, (hub.transports number).get key = some value ↔
    ∃ addr, live addr ∧ addr.publishedKey = key ∧ addr.publishedValue = value

namespace Publishes

theorem accepted (publishes : hub.Publishes handle number live) (key : String)
    (value : Option Bytes) :
    (⟨hub, .publish handle key value⟩ : Moment).accepted? number = some (key, value) :=
  Moment.accepted?_eq_some_iff.mpr ⟨handle, rfl, publishes.found, publishes.isOpen⟩

theorem transport?_step (publishes : hub.Publishes handle number live) (key : String)
    (value : Option Bytes) :
    (hub.step (.publish handle key value)).1.transport? handle = some number := by
  simp only [Hub.step, withTransport, publishes.found]
  cases (hub.transports number).publish key value hub.changes with
  | error error => exact publishes.found
  | ok after => exact publishes.found

theorem closed_step (publishes : hub.Publishes handle number live) (key : String)
    (value : Option Bytes) :
    ((hub.step (.publish handle key value)).1.transports number).closed = false := by
  rw [transport_step publishes.tidy]
  exact publishes.isOpen

/-- A publication leads from some addresses to others if these are what is held once its key has
its value. -/
theorem publish (publishes : hub.Publishes handle number live) {key : String}
    {value : Option Bytes} {next : NetAddr → Prop}
    (holds : ∀ other bytes,
      (if other = key then value else (hub.transports number).get other) = some bytes ↔
        ∃ addr, next addr ∧ addr.publishedKey = other ∧ addr.publishedValue = bytes) :
    (hub.step (.publish handle key value)).1.Publishes handle number next where
  tidy := publishes.tidy.step _
  found := publishes.transport?_step key value
  isOpen := publishes.closed_step key value
  get_eq_some_iff other bytes := by
    rw [get_step publishes.tidy, publishes.accepted]
    exact holds other bytes

/-- Publishing an address adds it to those that the transport holds. -/
theorem announce (publishes : hub.Publishes handle number live) (addr : NetAddr) :
    (hub.step (announce handle addr)).1.Publishes handle number fun other =>
      live other ∨ other = addr := by
  refine publishes.publish fun key value => ?_
  split
  · -- No other address has this key, so its value is the one just published.
    rename_i here
    subst here
    constructor
    · intro same
      exact ⟨addr, .inr rfl, rfl, Option.some.inj same⟩
    · rintro ⟨other, -, sameKey, rfl⟩
      rw [NetAddr.publishedKey_injective sameKey]
  · rename_i elsewhere
    rw [publishes.get_eq_some_iff]
    constructor
    · rintro ⟨other, isLive, rfl, rfl⟩
      exact ⟨other, .inl isLive, rfl, rfl⟩
    · rintro ⟨other, isLive | rfl, rfl, rfl⟩
      · exact ⟨other, isLive, rfl, rfl⟩
      · exact absurd rfl elsewhere

/-- Deleting an address takes it away from those that the transport holds. -/
theorem withdraw (publishes : hub.Publishes handle number live) (addr : NetAddr) :
    (hub.step (withdraw handle addr)).1.Publishes handle number fun other =>
      live other ∧ other ≠ addr := by
  refine publishes.publish fun key value => ?_
  split
  · rename_i here
    subst here
    constructor
    · intro impossible
      cases impossible
    · rintro ⟨other, ⟨-, notHere⟩, sameKey, -⟩
      exact absurd (NetAddr.publishedKey_injective sameKey) notHere
  · rename_i elsewhere
    rw [publishes.get_eq_some_iff]
    constructor
    · rintro ⟨other, isLive, rfl, rfl⟩
      exact ⟨other, ⟨isLive, fun same => elsewhere (congrArg _ same)⟩, rfl, rfl⟩
    · rintro ⟨other, ⟨isLive, -⟩, rfl, rfl⟩
      exact ⟨other, isLive, rfl, rfl⟩

theorem effective_announce (publishes : hub.Publishes handle number live) (addr : NetAddr) :
    (⟨hub, Hub.announce handle addr⟩ : Moment).Effective number :=
  (Moment.effective_iff_of_accepted (publishes.accepted _ _)).mpr (.inl nofun)

/-- A deletion has an effect when the address is there. -/
theorem effective_withdraw (publishes : hub.Publishes handle number live) {addr : NetAddr}
    (isLive : live addr) : (⟨hub, Hub.withdraw handle addr⟩ : Moment).Effective number := by
  refine (Moment.effective_iff_of_accepted (publishes.accepted _ _)).mpr (.inr ?_)
  rw [(publishes.get_eq_some_iff _ _).mpr ⟨addr, isLive, rfl, rfl⟩]
  exact nofun

/-! ## Rows of publications -/

/-- The addresses held may be described in other words. -/
theorem congr (publishes : hub.Publishes handle number live) {other : NetAddr → Prop}
    (same : ∀ addr, live addr ↔ other addr) : hub.Publishes handle number other := by
  rwa [← funext fun addr => propext (same addr)]

end Publishes

/-- Whether a row of actions consists of publications that all have an effect, and leaves the
transport with some addresses and nothing else. -/
structure Leads (hub : Hub) (handle : String) (number : Nat) (actions : List Action)
    (live : NetAddr → Prop) : Prop where
  effective : ∀ moment ∈ hub.moments actions, moment.Effective number
  publishes : (hub.after actions).Publishes handle number live

theorem Leads.append {front back : List Action} {next : NetAddr → Prop}
    (first : hub.Leads handle number front live)
    (second : (hub.after front).Leads handle number back next) :
    hub.Leads handle number (front ++ back) next where
  effective moment member := by
    rw [moments_append] at member
    rcases List.mem_append.mp member with inFront | inBack
    · exact first.effective moment inFront
    · exact second.effective moment inBack
  publishes := by
    rw [after_append]
    exact second.publishes

namespace Publishes

theorem announce_all (publishes : hub.Publishes handle number live) (addrs : List NetAddr) :
    hub.Leads handle number (addrs.map (Hub.announce handle)) fun addr =>
      live addr ∨ addr ∈ addrs := by
  induction addrs generalizing hub live with
  | nil => exact ⟨nofun, publishes.congr (by simp)⟩
  | cons addr addrs ih =>
    obtain ⟨effective, after⟩ := ih (publishes.announce addr)
    exact ⟨List.forall_mem_cons.mpr ⟨publishes.effective_announce addr, effective⟩,
      after.congr (by simp [or_assoc])⟩

/-- Addresses that are all there, each once, can be deleted one after the other. -/
theorem withdraw_all (publishes : hub.Publishes handle number live) {addrs : List NetAddr}
    (distinct : addrs.Nodup) (present : ∀ addr ∈ addrs, live addr) :
    hub.Leads handle number (addrs.map (Hub.withdraw handle)) fun addr =>
      live addr ∧ addr ∉ addrs := by
  induction addrs generalizing hub live with
  | nil => exact ⟨nofun, publishes.congr (by simp)⟩
  | cons addr addrs ih =>
    obtain ⟨fresh, distinct⟩ := List.nodup_cons.mp distinct
    obtain ⟨isLive, others⟩ := List.forall_mem_cons.mp present
    -- The other addresses are still there, because they differ from the first one.
    obtain ⟨effective, after⟩ := ih (publishes.withdraw addr) distinct fun other member =>
      ⟨others other member, fun same => fresh (same ▸ member)⟩
    exact ⟨List.forall_mem_cons.mpr ⟨publishes.effective_withdraw isLive, effective⟩,
      after.congr (by simp [and_assoc])⟩

end Publishes

/-- Each publication with an effect counts the revision up by one. -/
theorem revision_after_of_effective (tidy : hub.Tidy) {actions : List Action}
    (effective : ∀ moment ∈ hub.moments actions, moment.Effective number) :
    ((hub.after actions).transports number).revision =
      (hub.transports number).revision + actions.length := by
  induction actions generalizing hub with
  | nil => rfl
  | cons action actions ih =>
    obtain ⟨first, rest⟩ := List.forall_mem_cons.mp effective
    rw [after, ih (tidy.step action) rest, revision_step_eq tidy, if_pos first, List.length_cons]
    omega

/-! ## The whole reconciliation -/

theorem Publishes.reconciliation (publishes : hub.Publishes handle number fun _ => False)
    {current : List NetAddr} (distinct : current.Nodup) (desired : List NetAddr) :
    hub.Leads handle number (reconciliation handle current desired) (· ∈ desired) := by
  have subset := (AddressDiff.toDelete_subperm desired current).subset
  have announced := publishes.announce_all current
  have withdrawn := announced.publishes.withdraw_all (AddressDiff.nodup_toDelete distinct desired)
    fun addr member => .inr (subset member)
  obtain ⟨effective, after⟩ := announced.append
    (withdrawn.append (withdrawn.publishes.announce_all _))
  refine ⟨effective, after.congr fun addr => ?_⟩
  rw [false_or, AddressDiff.left_or_added_iff distinct desired]

/-- A transport that has never had a change holds nothing. -/
theorem publishes_of_unused (actions : List Action)
    (found : (start.after actions).transport? handle = some number)
    (isOpen : ((start.after actions).transports number).closed = false)
    (unused : ((start.after actions).transports number).revision = 0) :
    (start.after actions).Publishes handle number fun _ => False where
  tidy := tidy_after actions
  found := found
  isOpen := isOpen
  get_eq_some_iff key value := by
    simp only [false_and, exists_false, iff_false]
    intro stored
    obtain ⟨record, held, -⟩ := Option.map_eq_some_iff.mp stored
    have written := written_of_stored actions number (Store.find?_eq_some_iff.mp held).1
    have numbered := written.revision_le
    omega

end Hub

/-- A publication that has an effect is carried out. -/
theorem Moment.Effective.answer {moment : Moment} {number : Nat}
    (effective : moment.Effective number) :
    (moment.hub.step moment.action).2 = .done true := by
  obtain ⟨⟨key, value⟩, accepted, -⟩ := effective
  obtain ⟨hub, action⟩ := moment
  cases action with
  | publish handle otherKey otherValue =>
    simp only [accepted?, Option.mem_def, Option.ite_none_right_eq_some] at accepted
    exact accepted.1.2
  | _ => cases accepted

/-- A deletion that has an effect finds its key. -/
theorem Moment.Effective.present {moment : Moment} {number : Nat}
    (effective : moment.Effective number) {handle key : String}
    (deletion : moment.action = .publish handle key none) :
    (moment.hub.transports number).get key ≠ none := by
  obtain ⟨⟨otherKey, value⟩, accepted, stored⟩ := effective
  obtain ⟨_, published, -⟩ := accepted?_eq_some_iff.mp accepted
  rw [deletion] at published
  cases published
  exact stored.resolve_left (· rfl)

/-- Reconciliation on a transport that is open and has had no change yet, whoever else watches it.

* All that is published is accepted, and every deletion finds its key.
* Afterwards the keys below the prefix are exactly those of the desired addresses.
* Each of them has the text of its address as its value, and nothing else is stored.
* The revision has counted each publication. -/
theorem reconcile_exact (earlier : List Action) {handle : String} {number : Nat}
    {current : List NetAddr} (distinct : current.Nodup) (desired : List NetAddr)
    (found : (Hub.start.after earlier).transport? handle = some number)
    (isOpen : ((Hub.start.after earlier).transports number).closed = false)
    (unused : ((Hub.start.after earlier).transports number).revision = 0) :
    let hub := Hub.start.after earlier
    let diff := AddressDiff.between desired current
    let actions := Hub.reconciliation handle current desired
    let transport := (hub.after actions).transports number
    (∀ moment ∈ hub.moments actions, (moment.hub.step moment.action).2 = .done true ∧
        ∀ key, moment.action = .publish handle key none →
          (moment.hub.transports number).get key ≠ none) ∧
      (∀ key, key ∈ (transport.store.below NetAddr.publishedStem).map KeyValue.key ↔
        ∃ addr ∈ desired, addr.publishedKey = key) ∧
      (∀ key value, transport.get key = some value ↔
        ∃ addr ∈ desired, addr.publishedKey = key ∧ addr.publishedValue = value) ∧
      transport.revision = current.length + diff.toDelete.length + diff.toAdd.length := by
  intro hub diff actions transport
  obtain ⟨effective, publishes⟩ :=
    (Hub.publishes_of_unused earlier found isOpen unused).reconciliation distinct desired
  refine ⟨fun moment member => ?_, fun key => ?_, publishes.get_eq_some_iff, ?_⟩
  · have hasEffect := effective moment member
    exact ⟨hasEffect.answer, fun key => hasEffect.present⟩
  · constructor
    · intro member
      obtain ⟨record, below, rfl⟩ := List.mem_map.mp member
      have stored : transport.get record.key = some record.value := by
        rw [Transport.get, Store.find?_eq_some_iff.mpr ⟨(Store.mem_below.mp below).1, rfl⟩]
        rfl
      obtain ⟨addr, isDesired, sameKey, -⟩ := (publishes.get_eq_some_iff _ _).mp stored
      exact ⟨addr, isDesired, sameKey⟩
    · rintro ⟨addr, isDesired, rfl⟩
      have stored := (publishes.get_eq_some_iff _ _).mpr ⟨addr, isDesired, rfl, rfl⟩
      obtain ⟨record, held, -⟩ := Option.map_eq_some_iff.mp stored
      obtain ⟨isStored, sameKey⟩ := Store.find?_eq_some_iff.mp held
      refine List.mem_map.mpr ⟨record, Store.mem_below.mpr ⟨isStored, ?_⟩, sameKey⟩
      exact sameKey ▸ addr.publishedStem_isPrefix
  · have counted := Hub.revision_after_of_effective (Hub.tidy_after earlier) effective
    rw [unused] at counted
    simpa [Hub.reconciliation, diff, transport, actions, Nat.add_assoc] using counted

/-- One address under two masks, in both families, with a repetition among the desired ones. -/
theorem reconcile_exact_masks :
    let narrow : NetAddr := ⟨.v4 ⟨10, 0, 0, 1⟩, 24, by decide⟩
    let wide : NetAddr := ⟨.v4 ⟨10, 0, 0, 1⟩, 16, by decide⟩
    let mapped : NetAddr := ⟨.v6 ⟨0, 0, 0, 0, 0, 0xffff, 0xa00, 1⟩, 24, by decide⟩
    let hub := Hub.start.after [.close "main", .init "main"]
    let transport := (hub.after
      (Hub.reconciliation "main" [narrow, wide] [mapped, narrow, narrow])).transports 0
    [narrow, wide].Nodup ∧ hub.transport? "main" = some 0 ∧
      (hub.transports 0).closed = false ∧ (hub.transports 0).revision = 0 ∧
      transport.get narrow.publishedKey = some narrow.publishedValue ∧
      transport.get mapped.publishedKey = some mapped.publishedValue ∧
      transport.get wide.publishedKey = none := by
  intro narrow wide mapped hub transport
  have distinct : [narrow, wide].Nodup := by decide
  have found : hub.transport? "main" = some 0 := rfl
  obtain ⟨-, -, values, -⟩ := reconcile_exact [.close "main", .init "main"] distinct
    [mapped, narrow, narrow] found rfl rfl
  refine ⟨distinct, found, rfl, rfl, (values _ _).mpr ⟨narrow, by decide, rfl, rfl⟩,
    (values _ _).mpr ⟨mapped, by decide, rfl, rfl⟩, ?_⟩
  refine Option.eq_none_iff_forall_ne_some.mpr fun value stored => ?_
  obtain ⟨addr, isDesired, sameKey, -⟩ := (values _ _).mp stored
  obtain rfl := NetAddr.publishedKey_injective sameKey
  revert isDesired
  decide

end PluginSupport
