import GpuTelemetry.Drm.Library
import GpuTelemetry.Proofs.Ensures
import Mathlib.Algebra.BigOperators.Group.List.Basic
import Mathlib.Algebra.Order.Group.Multiset
import Mathlib.Data.Multiset.Count
import Mathlib.Tactic.Abel

/-!
# What a run holds

A ledger lists the resources that are held and the contexts of devices that are
not ended. Every event enters or removes at most one of these, and a context may
only be ended from a ledger that backs it: with the node of its device, and with
a hold of the library that made it. `Accounts` speaks of a computation that goes on
from a ledger: what it ends with, and the ledger that it leaves. On the way it gives
back at once what the driver hands out for a moment.
-/

namespace GpuTelemetry

open Drm

/-- What has to be given back. -/
inductive Asset
  | resource (resource : Resource)
  /-- The context of a listed device. -/
  | context (index : Nat)
  deriving DecidableEq

def Asset.isContext : Asset → Bool
  | resource _ => false
  | context _ => true

@[simp]
theorem Asset.isContext_resource (resource : Resource) :
    (Asset.resource resource).isContext = false :=
  rfl

@[simp]
theorem Asset.isContext_context (index : Nat) : (Asset.context index).isContext = true :=
  rfl

abbrev Ledger := Multiset Asset

namespace Ledger

/-- Every context has the node of its device and the library to itself. -/
structure Backed (ledger : Ledger) : Prop where
  node : ∀ index, ledger.count (.context index) ≤ ledger.count (.resource (.deviceNode index))
  library : ledger.countP (·.isContext) ≤ ledger.count (.resource .amdgpuLibrary)

def Contextless (ledger : Ledger) : Prop :=
  ∀ index, .context index ∉ ledger

variable {first second : Ledger}

theorem Backed.add (hfirst : first.Backed) (hsecond : second.Backed) :
    (first + second).Backed := by
  constructor
  · intro index
    rw [Multiset.count_add, Multiset.count_add]
    exact Nat.add_le_add (hfirst.node index) (hsecond.node index)
  · rw [Multiset.countP_add, Multiset.count_add]
    exact Nat.add_le_add hfirst.library hsecond.library

theorem Contextless.backed (h : first.Contextless) : first.Backed := by
  constructor
  · intro index
    rw [Multiset.count_eq_zero.mpr (h index)]
    exact Nat.zero_le _
  · have hnone : first.countP (·.isContext) = 0 := by
      rw [Multiset.countP_eq_zero]
      intro asset hasset
      cases asset with
      | resource resource => exact Bool.false_ne_true
      | context index => exact absurd hasset (h index)
    rw [hnone]
    exact Nat.zero_le _

theorem contextless_zero : Contextless 0 :=
  fun _ => Multiset.notMem_zero _

theorem Contextless.add (hfirst : first.Contextless) (hsecond : second.Contextless) :
    (first + second).Contextless := by
  intro index hmem
  rcases Multiset.mem_add.mp hmem with hmem | hmem
  · exact hfirst index hmem
  · exact hsecond index hmem

theorem backed_sum {ledgers : List Ledger} (h : ∀ ledger ∈ ledgers, ledger.Backed) :
    ledgers.sum.Backed :=
  List.sum_induction Backed (fun _ _ => Backed.add) contextless_zero.backed h

theorem contextless_sum {ledgers : List Ledger} (h : ∀ ledger ∈ ledgers, ledger.Contextless) :
    Contextless ledgers.sum :=
  List.sum_induction Contextless (fun _ _ => Contextless.add) contextless_zero h

theorem contextless_resource (resource : Resource) : Contextless {.resource resource} := by
  intro index hmem
  cases Multiset.mem_singleton.mp hmem

end Ledger

/-- Whether making a context for a listed device succeeds with a handle. -/
def Drm.Driver.grants (driver : Driver) (index : Nat) : Bool :=
  (driver.device? index).any fun device => device.initStatus = 0 && !device.nullHandle

/-- An event, with the graphics driver as it was then. -/
abbrev Ledger.Entry := Driver × Event

open Ledger

/-- What comes in with an event. -/
def Ledger.Entry.gain? : Entry → Option Asset
  | (_, .acquired resource) => some (.resource resource)
  | (driver, .drm (.beginContext index)) =>
    if driver.grants index then some (.context index) else none
  | _ => none

/-- What goes out with an event. -/
def Event.loss? : Event → Option Asset
  | .released resource => some (.resource resource)
  | .drm (.endContext index) => some (.context index)
  | _ => none

/-- Only the call that ends it lets a context go. -/
theorem Event.eq_endContext_of_loss? {event : Event} {index : Nat}
    (h : event.loss? = some (.context index)) : event = .drm (.endContext index) := by
  cases event with
  | drm call =>
      cases call with
      | endContext other =>
          cases h
          rfl
      | _ => cases h
  | _ => cases h

/-- How an entry changes a ledger. -/
inductive Posts : Ledger → Entry → Ledger → Prop
  | gain {ledger : Ledger} {entry : Entry} {asset : Asset} (h : entry.gain? = some asset)
    (hloss : entry.2.loss? = none) : Posts ledger entry (asset ::ₘ ledger)
  | loss {ledger : Ledger} {entry : Entry} {asset : Asset} (hgain : entry.gain? = none)
    (h : entry.2.loss? = some asset)
    (hbacked : asset.isContext = true → Ledger.Backed (asset ::ₘ ledger)) :
    Posts (asset ::ₘ ledger) entry ledger
  | plain {ledger : Ledger} {entry : Entry} (hgain : entry.gain? = none)
    (hloss : entry.2.loss? = none) : Posts ledger entry ledger

/-- How the entries of a history change a ledger in their order. -/
inductive PostsAll : Ledger → List Entry → Ledger → Prop
  | nil {ledger : Ledger} : PostsAll ledger [] ledger
  | cons {before middle after : Ledger} {entry : Entry} {history : List Entry}
    (h : Posts before entry middle) (hrest : PostsAll middle history after) :
    PostsAll before (entry :: history) after

/-! ## Passing handouts -/

/-- The call that gives back what another one has handed out, if it has: the version of a kernel
driver, or the devices of a list that was filled. -/
def Drm.Driver.owed? (driver : Driver) : Call → Option Call
  | .getVersion index =>
    ((driver.device? index).bind ListedDevice.version).map fun _ => .freeVersion
  | .listDevices _ capacity =>
    let filled := driver.filledCount capacity.toInt.toNat
    if capacity = 0 || filled < 0 then none else some (.freeDevices filled)
  | _ => none

def Drm.Call.isFree : Call → Bool
  | .freeDevices _ => true
  | .freeVersion => true
  | _ => false

theorem Drm.Driver.isFree_of_owed {driver : Driver} {call free : Call}
    (h : driver.owed? call = some free) : free.isFree = true := by
  cases call with
  | getVersion index =>
      obtain ⟨version, -, rfl⟩ := Option.map_eq_some_iff.mp h
      rfl
  | listDevices modern capacity =>
      dsimp only [owed?] at h
      split at h
      · cases h
      · cases h
        rfl
  | _ => cases h

/-- Whatever is handed out is given back with the very next call, and nothing else is. -/
inductive Prompt : List (Driver × Call) → Prop
  | nil : Prompt []
  | plain {driver : Driver} {call : Call} {rest : List (Driver × Call)}
    (howed : driver.owed? call = none) (hfree : call.isFree = false) (hrest : Prompt rest) :
    Prompt ((driver, call) :: rest)
  | paid {driver : Driver} {call free : Call} {rest : List (Driver × Call)}
    (howed : driver.owed? call = some free) (hrest : Prompt rest) :
    Prompt ((driver, call) :: (driver, free) :: rest)

theorem Prompt.append {first second : List (Driver × Call)} (h : Prompt first)
    (hsecond : Prompt second) : Prompt (first ++ second) := by
  induction h with
  | nil => exact hsecond
  | plain howed hfree _ ih => exact .plain howed hfree ih
  | paid howed _ ih => exact .paid howed ih

/-- The calls of a history into the libraries of the graphics driver. -/
def drmCalls (history : List Entry) : List (Driver × Call) :=
  history.filterMap fun
    | (driver, .drm call) => some (driver, call)
    | _ => none

theorem drmCalls_append (first second : List Entry) :
    drmCalls (first ++ second) = drmCalls first ++ drmCalls second :=
  List.filterMap_append

/-! ## Balances -/

section Balances

variable (p : Asset → Bool)

/-- How many assets of some kind came in over a history. -/
def gains (history : List Entry) : Nat :=
  history.countP fun entry => entry.gain?.any p

/-- How many assets of some kind went out over a history. -/
def losses (history : List Entry) : Nat :=
  history.countP fun entry => entry.2.loss?.any p

theorem gains_append (first second : List Entry) :
    gains p (first ++ second) = gains p first + gains p second :=
  List.countP_append

theorem losses_append (first second : List Entry) :
    losses p (first ++ second) = losses p first + losses p second :=
  List.countP_append

variable {before after : Ledger} {entry : Entry} {history : List Entry}

theorem Posts.balance (h : Posts before entry after) :
    before.countP (p ·) + gains p [entry] = losses p [entry] + after.countP (p ·) := by
  cases h with
  | gain h hloss =>
      rw [gains, losses, List.countP_singleton, List.countP_singleton, h, hloss,
        Multiset.countP_cons]
      simp
  | loss hgain h _ =>
      rw [gains, losses, List.countP_singleton, List.countP_singleton, hgain, h,
        Multiset.countP_cons]
      simp [Nat.add_comm]
  | plain hgain hloss =>
      rw [gains, losses, List.countP_singleton, List.countP_singleton, hgain, hloss]
      simp

theorem PostsAll.balance (h : PostsAll before history after) :
    before.countP (p ·) + gains p history = losses p history + after.countP (p ·) := by
  induction h with
  | nil => simp [gains, losses]
  | @cons before middle after entry history h hrest ih =>
      have hfirst := h.balance p
      have hgains := gains_append p [entry] history
      have hlosses := losses_append p [entry] history
      rw [List.singleton_append] at hgains hlosses
      omega

end Balances

theorem PostsAll.append {before middle after : Ledger} {first second : List Entry}
    (h : PostsAll before first middle) (hsecond : PostsAll middle second after) :
    PostsAll before (first ++ second) after := by
  induction h with
  | nil => exact hsecond
  | cons h _ ih => exact .cons h (ih hsecond)

theorem PostsAll.exists_of_append {before after : Ledger} {first second : List Entry}
    (h : PostsAll before (first ++ second) after) :
    ∃ middle, PostsAll before first middle ∧ PostsAll middle second after := by
  induction first generalizing before with
  | nil => exact ⟨before, .nil, h⟩
  | cons entry first ih =>
      cases h with
      | cons hentry hrest =>
          obtain ⟨middle, hfirst, hsecond⟩ := ih hrest
          exact ⟨middle, .cons hentry hfirst, hsecond⟩

section Resources

variable (resource : Resource)

theorem gains_resource (history : List Entry) :
    gains (· == .resource resource) history =
      (history.map Prod.snd).count (.acquired resource) := by
  rw [gains, List.count, List.countP_map]
  refine List.countP_congr fun entry _ => ?_
  obtain ⟨driver, event⟩ := entry
  cases event with
  | drm call =>
      cases call with
      | beginContext index =>
          rw [Entry.gain?]
          cases driver.grants index <;> simp
      | _ => simp [Entry.gain?]
  | _ => simp [Entry.gain?]

theorem losses_resource (history : List Entry) :
    losses (· == .resource resource) history =
      (history.map Prod.snd).count (.released resource) := by
  rw [losses, List.count, List.countP_map]
  refine List.countP_congr fun entry _ => ?_
  obtain ⟨driver, event⟩ := entry
  cases event with
  | drm call => cases call <;> simp [Event.loss?]
  | _ => simp [Event.loss?]

theorem countP_beq (asset : Asset) (ledger : Ledger) :
    ledger.countP (fun other => (other == asset) = true) = ledger.count asset := by
  refine Multiset.countP_congr rfl fun other _ => ?_
  exact propext (beq_iff_eq.trans eq_comm)

end Resources

/-- The resources that a trace leaves held are those of a ledger. -/
def Agrees (trace : List Event) (ledger : Ledger) : Prop :=
  ∀ resource, trace.count (.acquired resource) =
    trace.count (.released resource) + ledger.count (.resource resource)

theorem Agrees.held {trace : List Event} {ledger : Ledger} (h : Agrees trace ledger)
    (resource : Resource) : held trace resource = ledger.count (.resource resource) := by
  rw [GpuTelemetry.held, h resource, Nat.add_sub_cancel_left]

theorem PostsAll.agrees {history : List Entry} {before after : Ledger} {trace : List Event}
    (h : PostsAll before history after) (htrace : Agrees trace before) :
    Agrees (trace ++ history.map Prod.snd) after := by
  intro resource
  have hbefore := htrace resource
  have hbalance := h.balance (· == .resource resource)
  rw [gains_resource, losses_resource, countP_beq, countP_beq] at hbalance
  rw [List.count_append, List.count_append]
  omega

theorem agrees_nil : Agrees [] 0 :=
  fun _ => rfl

/-! ## Computations -/

/-- How a computation goes on from a trace, with the graphics driver as it is. -/
structure Follows (driver : Driver) (given : Ledger) (trace after : List Event) (left : Ledger)
    (events : List Event) : Prop where
  trace_eq : after = trace ++ events
  posts : PostsAll given (events.map (Prod.mk driver)) left
  prompt : Prompt (drmCalls (events.map (Prod.mk driver)))

section

variable {driver : Driver} {given middle left : Ledger} {trace between after : List Event}
  {first second events : List Event}

theorem Follows.refl : Follows driver given trace trace given [] :=
  ⟨(List.append_nil _).symm, .nil, .nil⟩

theorem Follows.trans (hfirst : Follows driver given trace between middle first)
    (hsecond : Follows driver middle between after left second) :
    Follows driver given trace after left (first ++ second) := by
  constructor
  · rw [hsecond.trace_eq, hfirst.trace_eq, List.append_assoc]
  · rw [List.map_append]
    exact hfirst.posts.append hsecond.posts
  · rw [List.map_append, drmCalls_append]
    exact hfirst.prompt.append hsecond.prompt

theorem Follows.agrees (h : Follows driver given trace after left events)
    (htrace : Agrees trace given) : Agrees after left := by
  have hagrees := h.posts.agrees htrace
  have hevents : (events.map (Prod.mk driver)).map Prod.snd = events :=
    (List.map_map ..).trans (List.map_id events)
  rwa [hevents, ← h.trace_eq] at hagrees

end

variable {α β : Type}

/-- A computation that goes on from a ledger ends with a result and a ledger that have a
property. -/
def Traced.Accounts (driver : Driver) (body : Traced α) (given : Ledger)
    (Q : α → Ledger → Prop) : Prop :=
  ∀ trace, Agrees trace given → ∃ left events,
    Follows driver given trace (StateT.run body trace).2 left events ∧
      Q (StateT.run body trace).1 left

def Run.Accounts (driver : Driver) (body : Run α) (given : Ledger)
    (Q : Except Fault α → Ledger → Prop) : Prop :=
  Traced.Accounts driver (ExceptT.run body) given Q

/-- The computation leaves the ledger as it is. -/
def Traced.Neutral (driver : Driver) (body : Traced α) : Prop :=
  ∀ given, Accounts driver body given fun _ left => left = given

def Run.Neutral (driver : Driver) (body : Run α) : Prop :=
  ∀ given, Accounts driver body given fun _ left => left = given

variable {driver : Driver} {given : Ledger}

namespace Traced

theorem accounts_pure {Q : α → Ledger → Prop} {a : α} (h : Q a given) :
    Accounts driver (pure a) given Q :=
  fun _ _ => ⟨given, [], .refl, h⟩

theorem Accounts.bind {P : α → Ledger → Prop} {Q : β → Ledger → Prop} {body : Traced α}
    {next : α → Traced β} (h : Accounts driver body given P)
    (hnext : ∀ a left, P a left → Accounts driver (next a) left Q) :
    Accounts driver (body >>= next) given Q := by
  intro trace htrace
  obtain ⟨middle, first, hfirst, hp⟩ := h trace htrace
  obtain ⟨left, second, hsecond, hq⟩ := hnext _ middle hp _ (hfirst.agrees htrace)
  exact ⟨left, first ++ second, hfirst.trans hsecond, hq⟩

theorem Accounts.mono {P Q : α → Ledger → Prop} {body : Traced α}
    (h : Accounts driver body given P) (hmono : ∀ a left, P a left → Q a left) :
    Accounts driver body given Q := by
  intro trace htrace
  obtain ⟨left, events, hfollows, hp⟩ := h trace htrace
  exact ⟨left, events, hfollows, hmono _ _ hp⟩

/-- What is known of the result whatever the trace is known of it, too. -/
theorem Accounts.and {Q : α → Ledger → Prop} {P : α → Prop} {body : Traced α}
    (h : Accounts driver body given Q) (hensures : Ensures body P) :
    Accounts driver body given fun a left => Q a left ∧ P a := by
  intro trace htrace
  obtain ⟨left, events, hfollows, hq⟩ := h trace htrace
  exact ⟨left, events, hfollows, hq, hensures trace⟩

theorem accounts_pure_bind {Q : β → Ledger → Prop} {a : α} {next : α → Traced β}
    (h : Accounts driver (next a) given Q) : Accounts driver (pure a >>= next) given Q :=
  h

/-- The trace is that of a ledger whenever it is looked at. -/
theorem accounts_get_bind {Q : β → Ledger → Prop} {next : List Event → Traced β}
    (h : ∀ trace, Agrees trace given → Accounts driver (next trace) given Q) :
    Accounts driver (get >>= next) given Q :=
  fun trace htrace => h trace htrace trace htrace

theorem Neutral.bind {Q : β → Ledger → Prop} {body : Traced α} {next : α → Traced β}
    (h : Neutral driver body) (hnext : ∀ a, Accounts driver (next a) given Q) :
    Accounts driver (body >>= next) given Q := by
  refine (h given).bind ?_
  rintro a _ rfl
  exact hnext a

/-- An event by itself. -/
theorem accounts_emit {event : Event} {left : Ledger} (h : Posts given (driver, event) left)
    (hprompt : Prompt (drmCalls [(driver, event)])) :
    Accounts driver (emit event) given fun _ after => after = left :=
  fun _ _ => ⟨left, [event], ⟨rfl, .cons h .nil, hprompt⟩, rfl⟩

theorem accounts_acquired (resource : Resource) :
    Accounts driver (emit (.acquired resource)) given
      fun _ left => left = .resource resource ::ₘ given :=
  accounts_emit (.gain rfl rfl) .nil

theorem accounts_released (resource : Resource) :
    Accounts driver (emit (.released resource)) (.resource resource ::ₘ given)
      fun _ left => left = given :=
  accounts_emit (.loss rfl rfl nofun) .nil

/-- An event that neither is a call of the driver nor has to do with a resource. -/
theorem neutral_emit {event : Event} (hgain : Entry.gain? (driver, event) = none)
    (hloss : event.loss? = none) (hcalls : drmCalls [(driver, event)] = []) :
    Neutral driver (emit event) :=
  fun _ => accounts_emit (.plain hgain hloss) (hcalls ▸ .nil)

theorem neutral_log (level : LogLevel) (source : LogSource) (text : String) :
    Neutral driver (log level source text) :=
  neutral_emit rfl rfl rfl

/-- A call that neither hands anything out nor gives it back, nor has to do with a context. -/
theorem neutral_call {made : Call} (hgain : Entry.gain? (driver, .drm made) = none)
    (hloss : Event.loss? (.drm made) = none) (howed : driver.owed? made = none)
    (hfree : made.isFree = false) : Neutral driver (call made) :=
  fun _ => accounts_emit (.plain hgain hloss) (.plain howed hfree .nil)

theorem accounts_beginContext {index : Nat} (h : driver.grants index = true) :
    Accounts driver (call (.beginContext index)) given
      fun _ left => left = .context index ::ₘ given := by
  have hgain : Entry.gain? (driver, .drm (.beginContext index)) = some (.context index) := by
    rw [Entry.gain?, h]
    rfl
  exact accounts_emit (.gain hgain rfl) (.plain rfl rfl .nil)

theorem accounts_endContext {index : Nat} (h : Ledger.Backed (.context index ::ₘ given)) :
    Accounts driver (call (.endContext index)) (.context index ::ₘ given)
      fun _ left => left = given :=
  accounts_emit (.loss rfl rfl fun _ => h) (.plain rfl rfl .nil)

/-- A call that hands something out, and the one that gives it back. -/
theorem accounts_handout_bind {Q : β → Ledger → Prop} {made free : Call} {next : Unit → Traced β}
    (howed : driver.owed? made = some free) (hnext : Accounts driver (next ()) given Q) :
    Accounts driver (call made >>= fun _ => call free >>= next) given Q := by
  have hmade : Entry.gain? (driver, .drm made) = none ∧ Event.loss? (.drm made) = none := by
    cases made with
    | beginContext index => cases howed
    | endContext index => cases howed
    | _ => exact ⟨rfl, rfl⟩
  have hfree : Entry.gain? (driver, .drm free) = none ∧ Event.loss? (.drm free) = none := by
    have hisFree := Driver.isFree_of_owed howed
    cases free with
    | beginContext index => cases hisFree
    | endContext index => cases hisFree
    | _ => exact ⟨rfl, rfl⟩
  have hpair : Neutral driver (do call made; call free) := by
    intro given _ _
    refine ⟨given, [.drm made, .drm free], ⟨List.append_assoc _ _ _, ?_, .paid howed .nil⟩, rfl⟩
    exact .cons (.plain hmade.1 hmade.2) (.cons (.plain hfree.1 hfree.2) .nil)
  exact hpair.bind fun _ => hnext

theorem neutral_pure (a : α) : Neutral driver (pure a) :=
  fun _ => accounts_pure rfl

theorem Neutral.bind_neutral {body : Traced α} {next : α → Traced β} (h : Neutral driver body)
    (hnext : ∀ a, Neutral driver (next a)) : Neutral driver (body >>= next) :=
  fun given => h.bind fun a => hnext a given

theorem neutral_forM {l : List α} {body : α → Traced Unit} (h : ∀ a, Neutral driver (body a)) :
    Neutral driver (l.forM body) := by
  induction l with
  | nil => exact neutral_pure ()
  | cons a l ih => exact (h a).bind_neutral fun _ => ih

end Traced

namespace Run

theorem accounts_pure {Q : Except Fault α → Ledger → Prop} {a : α} (h : Q (.ok a) given) :
    Accounts driver (pure a) given Q :=
  Traced.accounts_pure h

theorem Accounts.mono {P Q : Except Fault α → Ledger → Prop} {body : Run α}
    (h : Accounts driver body given P) (hmono : ∀ result left, P result left → Q result left) :
    Accounts driver body given Q :=
  Traced.Accounts.mono h hmono

theorem Accounts.and {Q : Except Fault α → Ledger → Prop} {P : Except Fault α → Prop}
    {body : Run α} (h : Accounts driver body given Q) (hensures : Ensures body P) :
    Accounts driver body given fun result left => Q result left ∧ P result :=
  Traced.Accounts.and h hensures

theorem Accounts.bind {P : Except Fault α → Ledger → Prop} {Q : Except Fault β → Ledger → Prop}
    {body : Run α} {next : α → Run β} (h : Accounts driver body given P)
    (hok : ∀ a left, P (.ok a) left → Accounts driver (next a) left Q)
    (herror : ∀ fault left, P (.error fault) left → Q (.error fault) left) :
    Accounts driver (body >>= next) given Q := by
  change Traced.Accounts driver (ExceptT.run body >>= ExceptT.bindCont next) given Q
  refine Traced.Accounts.bind h ?_
  intro result left hp
  cases result with
  | ok a => exact hok a left hp
  | error fault => exact Traced.accounts_pure (herror fault left hp)

theorem accounts_lift {Q : Except Fault α → Ledger → Prop} {body : Traced α}
    (h : Traced.Accounts driver body given fun a left => Q (.ok a) left) :
    Accounts driver (monadLift body) given Q :=
  h

theorem accounts_lift_bind {P : α → Ledger → Prop} {Q : Except Fault β → Ledger → Prop}
    {body : Traced α} {next : α → Run β} (h : Traced.Accounts driver body given P)
    (hnext : ∀ a left, P a left → Accounts driver (next a) left Q) :
    Accounts driver (monadLift body >>= next) given Q :=
  Traced.Accounts.bind h hnext

theorem neutral_lift_bind {Q : Except Fault β → Ledger → Prop} {body : Traced α}
    {next : α → Run β} (h : Traced.Neutral driver body)
    (hnext : ∀ a, Accounts driver (next a) given Q) :
    Accounts driver (monadLift body >>= next) given Q :=
  Traced.Neutral.bind h hnext

theorem Neutral.bind {Q : Except Fault β → Ledger → Prop} {body : Run α} {next : α → Run β}
    (h : Neutral driver body) (hok : ∀ a, Accounts driver (next a) given Q)
    (herror : ∀ fault, Q (.error fault) given) : Accounts driver (body >>= next) given Q := by
  refine Accounts.bind (h given) ?_ ?_
  · rintro a _ rfl
    exact hok a
  · rintro fault _ rfl
    exact herror fault

/-- A call that hands something out, and the one that gives it back. -/
theorem accounts_handout_bind {Q : Except Fault β → Ledger → Prop} {made free : Call}
    {next : Unit → Run β} (howed : driver.owed? made = some free)
    (hnext : Accounts driver (next ()) given Q) :
    Accounts driver (monadLift (call made) >>= fun _ => monadLift (call free) >>= next) given Q :=
  Traced.accounts_handout_bind howed hnext

theorem neutral_ofExcept (body : Except Fault α) : Neutral driver (monadLift body) := by
  intro given trace _
  cases body <;> exact ⟨given, [], .refl, rfl⟩

theorem accounts_get_bind {Q : Except Fault β → Ledger → Prop} {next : List Event → Run β}
    (h : ∀ trace, Agrees trace given → Accounts driver (next trace) given Q) :
    Accounts driver (get >>= next) given Q :=
  fun trace htrace => h trace htrace trace htrace

/-- A fault is passed on after the cleanup, and a result is kept. -/
theorem Accounts.onFault {P Q : Except Fault α → Ledger → Prop} {body : Run α}
    {cleanup : Run Unit} (h : Accounts driver body given P)
    (hok : ∀ a left, P (.ok a) left → Q (.ok a) left)
    (herror : ∀ fault left, P (.error fault) left →
      Accounts driver cleanup left fun _ last => Q (.error fault) last) :
    Accounts driver (onFault body cleanup) given Q := by
  intro trace htrace
  obtain ⟨left, first, hfirst, hp⟩ := h trace htrace
  rw [run_onFault]
  revert hfirst hp
  rcases StateT.run (ExceptT.run body) trace with ⟨result, after⟩
  intro hfirst hp
  cases result with
  | ok a => exact ⟨left, first, hfirst, hok a left hp⟩
  | error fault =>
      obtain ⟨last, second, hsecond, hq⟩ := herror fault left hp after (hfirst.agrees htrace)
      exact ⟨last, first ++ second, hfirst.trans hsecond, hq⟩

end Run

end GpuTelemetry
