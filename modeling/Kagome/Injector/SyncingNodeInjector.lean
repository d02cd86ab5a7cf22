import Kagome.Application.AppConfigurationImpl

/-!
# `get_peer_info` (`injector/syncing_node_injector.hpp`)

`get_peer_info` builds the node's own `OwnPeerInfo` from the key pair and the configuration of
an injector, and keeps it in a function-local `static` for every later call. The function is a
template over the type `Injector`, and each instantiation has its own `static`: a call reads
and sets the `static` of its injector's type only. When the injector's key gives no peer id,
one of the two `.value()` calls throws, the `static` stays empty, and the next call of that
instantiation tries again.

So the calls with the injectors of one type throw until one of them gives a peer id, and from
that call on every call with an injector of that type returns the info of that injector,
whatever key and configuration a later injector of the type has; injectors of other types
neither see nor set it (`calls_of_instantiation`).
-/

namespace Kagome.Injector

open Kagome.Application (AppConfigurationImpl)

/-- What `get_peer_info` reads of an injector: its type, the template argument `Injector`,
numbered; the peer id its key pair gives (`none` when `marshal` or `PeerId::fromPublicKey`
fails); and its configuration. -/
structure InjectorView where
  instantiation : Nat
  peerId : Option String
  config : AppConfigurationImpl

/-- `network::OwnPeerInfo`. -/
structure OwnPeerInfo where
  peerId : String
  addresses : List String
  deriving DecidableEq

/-- The info an injector gives, if its key gives a peer id. -/
def InjectorView.info (injector : InjectorView) : Option OwnPeerInfo :=
  injector.peerId.map fun peerId => ⟨peerId, injector.config.listenAddresses⟩

/-- One call of `get_peer_info` with the `static` `initialized`: the info it returns and the
`static` after it, or `none` when it throws. -/
def getPeerInfo (initialized : Option OwnPeerInfo) (injector : InjectorView) :
    Option (OwnPeerInfo × Option OwnPeerInfo) :=
  match initialized with
  | some info => some (info, initialized)
  | none => injector.info.map fun info => (info, some info)

/-- Calls of one instantiation, sharing its `static`: what each returns, `none` for a call that
throws. -/
def callsOne (initialized : Option OwnPeerInfo) : List InjectorView → List (Option OwnPeerInfo)
  | [] => []
  | injector :: injectors =>
    match getPeerInfo initialized injector with
    | some (info, initialized) => some info :: callsOne initialized injectors
    | none => none :: callsOne initialized injectors

/-- Calls with each injector in turn, each with the `static` of its injector's instantiation
(`statics`): what each returns, `none` for a call that throws. -/
def calls (statics : Nat → Option OwnPeerInfo) : List InjectorView → List (Option OwnPeerInfo)
  | [] => []
  | injector :: injectors =>
    match getPeerInfo (statics injector.instantiation) injector with
    | some (info, initialized) =>
      some info :: calls (Function.update statics injector.instantiation initialized) injectors
    | none => none :: calls statics injectors

/-- The info of the first injector whose key gives a peer id. -/
def firstInfo (injectors : List InjectorView) : Option OwnPeerInfo :=
  injectors.findSome? InjectorView.info

/-- Once the `static` is set, every call returns it. -/
theorem callsOne_some (info : OwnPeerInfo) :
    ∀ injectors : List InjectorView, callsOne (some info) injectors = injectors.map fun _ => some info
  | [] => rfl
  | _ :: injectors => by
    simp only [callsOne, getPeerInfo, callsOne_some info injectors, List.map_cons]

/-- The calls of one instantiation throw while no injector has given a peer id; from the first
that does, every call returns that injector's peer id and listen addresses. -/
theorem callsOne_eq_takeWhile_dropWhile : ∀ injectors : List InjectorView,
    callsOne none injectors =
      (injectors.takeWhile (·.info.isNone)).map (fun _ => none) ++
        (injectors.dropWhile (·.info.isNone)).map fun _ => firstInfo injectors
  | [] => rfl
  | injector :: injectors => by
    cases hi : injector.info with
    | none =>
      have hnone : injector.info.isNone = true := by simp [hi]
      simp only [callsOne, getPeerInfo, hi, Option.map_none',
        callsOne_eq_takeWhile_dropWhile injectors,
        List.takeWhile_cons_of_pos (p := fun x : InjectorView => x.info.isNone) hnone,
        List.dropWhile_cons_of_pos (p := fun x : InjectorView => x.info.isNone) hnone, firstInfo,
        List.findSome?_cons, List.map_cons, List.cons_append]
    | some info =>
      have hsome : ¬injector.info.isNone = true := by simp [hi]
      simp only [callsOne, getPeerInfo, hi, Option.map_some', callsOne_some,
        List.takeWhile_cons_of_neg (p := fun x : InjectorView => x.info.isNone) hsome,
        List.dropWhile_cons_of_neg (p := fun x : InjectorView => x.info.isNone) hsome, firstInfo,
        List.findSome?_cons, List.map_cons, List.map_nil, List.nil_append]

/-- The calls with the injectors of instantiation `t` are the calls of that instantiation
alone: a call with another type neither reads nor sets its `static`. -/
theorem calls_filter (t : Nat) (statics : Nat → Option OwnPeerInfo)
    (injectors : List InjectorView) :
    ((injectors.zip (calls statics injectors)).filter (·.1.instantiation = t)).map Prod.snd =
      callsOne (statics t) (injectors.filter (·.instantiation = t)) := by
  induction injectors generalizing statics with
  | nil => rfl
  | cons injector injectors ih =>
    by_cases ht : injector.instantiation = t
    · cases h : getPeerInfo (statics t) injector with
      | none => simp [calls, callsOne, ht, h, ih]
      | some r => simp [calls, callsOne, ht, h, ih]
    · have hkeep : ∀ s, Function.update statics injector.instantiation s t = statics t :=
        fun s => Function.update_noteq (Ne.symm ht) s statics
      cases h : getPeerInfo (statics injector.instantiation) injector with
      | none => simp [calls, ht, h, ih]
      | some r => simp [calls, ht, h, ih, hkeep]

/-- From the start of the program, the calls with the injectors of one type throw until one of
them gives a peer id, and from then on return that injector's peer id and listen addresses. -/
theorem calls_of_instantiation (t : Nat) (injectors : List InjectorView) :
    ((injectors.zip (calls (fun _ => none) injectors)).filter (·.1.instantiation = t)).map
        Prod.snd =
      ((injectors.filter (·.instantiation = t)).takeWhile (·.info.isNone)).map (fun _ => none) ++
        ((injectors.filter (·.instantiation = t)).dropWhile (·.info.isNone)).map fun _ =>
          firstInfo (injectors.filter (·.instantiation = t)) := by
  rw [calls_filter]
  exact callsOne_eq_takeWhile_dropWhile _

end Kagome.Injector
