import Mathlib.Data.List.Nodup
import Mathlib.Data.List.Perm.Basic
import MatrixServer.Routing.Routes

/-!
# When the route table is built

`routes` panics at startup when a registration routes a path and method that an earlier one
routes already, when a Ruma endpoint's method has no `MethodFilter`, when a path does not start
with `/`, and when matchit refuses a path as malformed or in conflict with another. Each stage of
`routes` is specified once, by the (path, method) keys it adds and what else it needs: from a
table that routes exactly some keys that matchit admits, a stage succeeds exactly when its
condition holds and matchit admits the keys so far, and then the table routes exactly those
keys. Chained over the stages of `routes`, this says when the server starts; and since a
conflict is symmetric, the order of the `ruma_route` calls changes neither that nor what the
table routes.
-/

set_option autoImplicit false

namespace MatrixServer.Routing

/-- The keys a table can route: none twice, every path one that starts with `/` and that matchit
can parse, and no two paths in conflict. -/
structure Matchit.Admits (matchit : Matchit) (keys : List (String × Method)) : Prop where
  nodup : keys.Nodup
  accepted : ∀ key ∈ keys, key.1.toList.head? = some '/' ∧ matchit.malformed key.1 = false
  apart : keys.Pairwise fun key other => key.1 ≠ other.1 → matchit.conflict key.1 other.1 = false

namespace Matchit.Admits

variable {matchit : Matchit} {keys keys' : List (String × Method)}

theorem nil : matchit.Admits [] := ⟨List.nodup_nil, nofun, List.Pairwise.nil⟩

theorem sublist (admits : matchit.Admits keys) (sub : keys'.Sublist keys) : matchit.Admits keys' :=
  ⟨admits.nodup.sublist sub, fun key member => admits.accepted key (sub.subset member), admits.apart.sublist sub⟩

theorem apart_symm {key other : String × Method} (apart : key.1 ≠ other.1 → matchit.conflict key.1 other.1 = false) :
    other.1 ≠ key.1 → matchit.conflict other.1 key.1 = false := fun distinct => by
  rw [matchit.conflict_comm]
  exact apart (Ne.symm distinct)

theorem perm (admits : matchit.Admits keys) (perm : keys.Perm keys') : matchit.Admits keys' :=
  ⟨perm.nodup_iff.mp admits.nodup, fun key member => admits.accepted key (perm.mem_iff.mpr member),
    (perm.pairwise_iff apart_symm).mp admits.apart⟩

theorem conflict_eq_false (admits : matchit.Admits keys) {key other : String × Method} (member : key ∈ keys)
    (member' : other ∈ keys) (distinct : key.1 ≠ other.1) : matchit.conflict key.1 other.1 = false :=
  admits.apart.forall_of_forall_of_flip (fun _ _ same => absurd rfl same) (admits.apart.imp apart_symm) member member'
    distinct

/-- Matchit admits the keys with one more path added under some methods exactly when none of the
new keys is there already, the path starts with `/` and parses, and it is in conflict with no
other path of the keys. -/
theorem append_path_iff (admits : matchit.Admits keys) {path : String} {methods : List Method}
    (unique : methods.Nodup) (nonempty : methods ≠ []) :
    matchit.Admits (keys ++ methods.map (path, ·)) ↔
      (∀ method ∈ methods, (path, method) ∉ keys) ∧
        (path.toList.head? = some '/' ∧ matchit.malformed path = false) ∧
        ∀ key ∈ keys, key.1 ≠ path → matchit.conflict key.1 path = false := by
  obtain ⟨method, member⟩ := List.exists_mem_of_ne_nil methods nonempty
  have added : (path, method) ∈ keys ++ methods.map (path, ·) := by simp [member]
  constructor
  · intro admitsAll
    refine ⟨fun other mem present => ?_, admitsAll.accepted _ added, fun key keyMem distinct =>
      admitsAll.conflict_eq_false (List.mem_append_left _ keyMem) added distinct⟩
    exact List.disjoint_of_nodup_append admitsAll.nodup present (List.mem_map_of_mem _ mem)
  · rintro ⟨fresh, accepted, apart⟩
    refine ⟨?_, ?_, ?_⟩
    · refine List.Nodup.append admits.nodup (unique.map (Prod.mk.inj_left path)) fun key present added => ?_
      obtain ⟨other, mem, rfl⟩ := List.mem_map.mp added
      exact fresh other mem present
    · simp only [List.mem_append, List.mem_map]
      rintro key (member | ⟨_, _, rfl⟩)
      exacts [admits.accepted key member, accepted]
    · refine List.pairwise_append.mpr ⟨admits.apart, ?_, fun key member _ added distinct => ?_⟩
      · exact List.pairwise_map.mpr (List.Pairwise.imp (fun _ same => absurd rfl same)
          (List.pairwise_of_forall (fun _ _ => trivial)))
      · obtain ⟨_, _, rfl⟩ := List.mem_map.mp added
        exact apart key member distinct

end Matchit.Admits

section Stages

variable {H : Type} {matchit : Matchit}

/-- The routes of a table are the keys `keys`: a path routes a flag exactly when the path and
the flag's method are a key, and the templates of the table are the paths of the keys. -/
structure Router.Domain (router : Router H) (keys : List (String × Method)) : Prop where
  lookup : ∀ path filter, (router.lookup path filter).isSome ↔ (path, filter.method) ∈ keys
  templates : ∀ template, template ∈ router.templates ↔ ∃ method, (template, method) ∈ keys

theorem Router.domain_new : (Router.new : Router H).Domain [] :=
  ⟨fun _ _ => by simp [Router.lookup, Router.new], fun _ => by simp [Router.new]⟩

/-- A table under construction: it is built exactly when `ok` holds and matchit admits `keys`,
and the table built routes exactly `keys`. -/
structure Reaches (matchit : Matchit) (built : Except Panic (Router H)) (ok : Prop) (keys : List (String × Method)) :
    Prop where
  isOk_iff : (∃ router, built = .ok router) ↔ ok ∧ matchit.Admits keys
  domain : ∀ router, built = .ok router → router.Domain keys

/-- A stage of registration that adds the keys `new`: from a table that routes exactly `keys`,
which matchit admits, it reaches `keys ++ new`, and needs `ok` besides. -/
def Registers (matchit : Matchit) (stage : Router H → Except Panic (Router H)) (ok : Prop)
    (new : List (String × Method)) : Prop :=
  ∀ router keys, router.Domain keys → matchit.Admits keys → Reaches matchit (stage router) ok (keys ++ new)

theorem Reaches.congr {built : Except Panic (Router H)} {ok ok' : Prop} {keys keys' : List (String × Method)}
    (reaches : Reaches matchit built ok keys) (iff : ok ↔ ok') (same : keys = keys') :
    Reaches matchit built ok' keys' :=
  ⟨reaches.isOk_iff.trans (by rw [iff, same]), same ▸ reaches.domain⟩

theorem Registers.congr {stage : Router H → Except Panic (Router H)} {ok ok' : Prop}
    {new new' : List (String × Method)} (registers : Registers matchit stage ok new) (iff : ok ↔ ok')
    (same : new = new') : Registers matchit stage ok' new' := fun router keys domain admits =>
  (registers router keys domain admits).congr iff (by rw [same])

theorem Registers.bind {first rest : Router H → Except Panic (Router H)} {ok okRest : Prop}
    {new newRest : List (String × Method)} (registers : Registers matchit first ok new)
    (registersRest : Registers matchit rest okRest newRest) :
    Registers matchit (fun router => first router >>= rest) (ok ∧ okRest) (new ++ newRest) := by
  intro router keys domain admits
  have reaches := registers router keys domain admits
  have prefixAdmits : matchit.Admits (keys ++ new ++ newRest) → matchit.Admits (keys ++ new) :=
    (·.sublist (List.sublist_append_left _ _))
  rw [← List.append_assoc]
  refine ⟨⟨fun ⟨after, built⟩ => ?_, fun ⟨⟨holds, holdsRest⟩, allAdmits⟩ => ?_⟩, fun after built => ?_⟩
  · obtain ⟨middle, firstBuilt, restBuilt⟩ := Router.except_bind_eq_ok built
    obtain ⟨holds, firstAdmits⟩ := reaches.isOk_iff.mp ⟨middle, firstBuilt⟩
    obtain ⟨holdsRest, allAdmits⟩ := (registersRest middle _ (reaches.domain middle firstBuilt)
      firstAdmits).isOk_iff.mp ⟨after, restBuilt⟩
    exact ⟨⟨holds, holdsRest⟩, allAdmits⟩
  · obtain ⟨middle, firstBuilt⟩ := reaches.isOk_iff.mpr ⟨holds, prefixAdmits allAdmits⟩
    obtain ⟨after, restBuilt⟩ := (registersRest middle _ (reaches.domain middle firstBuilt)
      (prefixAdmits allAdmits)).isOk_iff.mpr ⟨holdsRest, allAdmits⟩
    exact ⟨after, show first router >>= rest = _ by rw [firstBuilt]; exact restBuilt⟩
  · obtain ⟨middle, firstBuilt, restBuilt⟩ := Router.except_bind_eq_ok built
    obtain ⟨-, firstAdmits⟩ := reaches.isOk_iff.mp ⟨middle, firstBuilt⟩
    exact (registersRest middle _ (reaches.domain middle firstBuilt) firstAdmits).domain after restBuilt

theorem Registers.withFallback (handler : H) :
    Registers matchit (fun router => pure (router.withFallback handler)) True [] := fun router keys domain admits =>
  ⟨⟨fun _ => ⟨trivial, by rwa [List.append_nil]⟩, fun _ => ⟨_, rfl⟩⟩, fun after built => by
    cases built
    rw [List.append_nil]
    exact ⟨domain.lookup, domain.templates⟩⟩

theorem Registers.foldlM {α : Type} {step : Router H → α → Except Panic (Router H)} {ok : α → Prop}
    {new : α → List (String × Method)}
    (each : ∀ item, Registers matchit (fun router => step router item) (ok item) (new item)) :
    ∀ items : List α,
      Registers matchit (fun router => items.foldlM step router) (∀ item ∈ items, ok item) (items.flatMap new)
  | [] => fun router keys domain admits =>
      ⟨⟨fun _ => ⟨nofun, by simpa using admits⟩, fun _ => ⟨router, rfl⟩⟩, fun after built => by
        cases built
        simpa using domain⟩
  | item :: rest => ((each item).bind (Registers.foldlM each rest)).congr List.forall_mem_cons.symm (by simp)

section Route

variable {path : String} {methodRouter : MethodRouter H} {methods : List Method}

theorem Router.Domain.fresh_iff {router : Router H} {keys : List (String × Method)} (domain : router.Domain keys)
    (routes : ∀ filter, (methodRouter.handler filter).isSome ↔ filter.method ∈ methods)
    (flagged : ∀ method ∈ methods, ∃ filter : MethodFilter, filter.method = method) :
    (∀ filter, router.lookup path filter = none ∨ methodRouter.handler filter = none) ↔
      ∀ method ∈ methods, (path, method) ∉ keys := by
  constructor
  · intro disjoint method member present
    obtain ⟨filter, rfl⟩ := flagged method member
    rcases disjoint filter with free | unrouted
    · simp [← domain.lookup path filter, free] at present
    · simpa [unrouted] using (routes filter).mpr member
  · intro fresh filter
    by_cases routed : (methodRouter.handler filter).isSome
    · exact .inl (Option.not_isSome_iff_eq_none.mp fun present =>
        fresh _ ((routes filter).mp routed) ((domain.lookup path filter).mp present))
    · exact .inr (Option.not_isSome_iff_eq_none.mp routed)

theorem Router.Domain.route {router after : Router H} {keys : List (String × Method)} (domain : router.Domain keys)
    (routes : ∀ filter, (methodRouter.handler filter).isSome ↔ filter.method ∈ methods) (nonempty : methods ≠ [])
    (built : router.route matchit path methodRouter = .ok after) : after.Domain (keys ++ methods.map (path, ·)) := by
  refine ⟨fun routed filter => ?_, fun template => ?_⟩
  · rw [(Router.route_eq_ok built).2.2]
    by_cases same : routed = path
    · subst same
      simp [Option.isSome_or, domain.lookup routed filter, routes filter]
    · simp [same, Ne.symm same, domain.lookup routed filter]
  · obtain ⟨method, member⟩ := List.exists_mem_of_ne_nil methods nonempty
    rw [Router.route_templates built, domain.templates]
    constructor
    · rintro (⟨other, present⟩ | rfl)
      exacts [⟨other, List.mem_append_left _ present⟩, ⟨method, by simp [member]⟩]
    · rintro ⟨other, present⟩
      rcases List.mem_append.mp present with old | added
      · exact .inl ⟨other, old⟩
      · obtain ⟨_, _, same⟩ := List.mem_map.mp added
        exact .inr (congrArg Prod.fst same).symm

/-- `Router::route` of a method router that routes exactly the methods `methods` adds the key of
each at the path. It panics exactly when the path routes one of them already, does not start
with `/`, or is new and refused by matchit. -/
theorem Registers.route (path : String) (methodRouter : MethodRouter H) (methods : List Method)
    (unique : methods.Nodup) (nonempty : methods ≠ [])
    (routes : ∀ filter, (methodRouter.handler filter).isSome ↔ filter.method ∈ methods)
    (flagged : ∀ method ∈ methods, ∃ filter : MethodFilter, filter.method = method) :
    Registers matchit (fun router => router.route matchit path methodRouter) True (methods.map (path, ·)) := by
  intro router keys domain admits
  refine ⟨?_, fun after built => domain.route routes nonempty built⟩
  rw [Router.route_isOk_iff, admits.append_path_iff unique nonempty, domain.fresh_iff routes flagged, true_and]
  cases atPath : router.paths path with
  | some previous =>
      obtain ⟨method, present⟩ := (domain.templates path).mp ((router.mem_templates path).mpr (by simp [atPath]))
      obtain ⟨slash, parses⟩ := admits.accepted _ present
      have apart : ∀ key ∈ keys, key.1 ≠ path → matchit.conflict key.1 path = false :=
        fun key member distinct => admits.conflict_eq_false member present distinct
      simp only [slash, parses, reduceCtorEq, false_implies, and_true, true_and]
      exact (and_iff_left apart).symm
  | none =>
      have absent : ∀ template ∈ router.templates, template ≠ path := fun template member same => by
        simp [router.mem_templates, same, atPath] at member
      have templatesApart : (∀ template ∈ router.templates, matchit.conflict template path = false) ↔
          ∀ key ∈ keys, key.1 ≠ path → matchit.conflict key.1 path = false := by
        constructor
        · intro apart key member distinct
          exact apart key.1 ((domain.templates key.1).mpr ⟨key.2, member⟩)
        · intro apart template member
          obtain ⟨method, present⟩ := (domain.templates template).mp member
          exact apart (template, method) present (absent template member)
      rw [← templatesApart]
      exact ⟨fun ⟨slash, fresh, refused⟩ => ⟨fresh, ⟨slash, (refused rfl).1⟩, (refused rfl).2⟩,
        fun ⟨fresh, ⟨slash, parses⟩, apart⟩ => ⟨slash, fresh, fun _ => ⟨parses, apart⟩⟩⟩

end Route

theorem Registers.route_onFilter (path : String) (filter : MethodFilter) (handler : H) :
    Registers matchit (fun router => router.route matchit path (.onFilter filter handler)) True
      [(path, filter.method)] :=
  Registers.route path _ [filter.method] (List.nodup_singleton _) (List.cons_ne_nil _ _)
    (fun routed => by simp [MethodFilter.method_injective.eq_iff])
    (fun _ member => ⟨filter, (List.mem_singleton.mp member).symm⟩)

/-- `add_to_router` adds every path of the endpoint's history with its method, and needs the
method to have a `MethodFilter`. -/
theorem addToRouter_registers (matchit : Matchit) (metadata : Metadata) (handler : H) :
    Registers matchit (fun router => addToRouter matchit metadata handler router)
      (∃ filter, methodToFilter metadata.method = .ok filter)
      (metadata.paths.map (·, metadata.method)) := by
  intro router keys domain admits
  dsimp only
  cases filtered : methodToFilter metadata.method with
  | error panic =>
      have refused : addToRouter matchit metadata handler router = .error panic := by
        simp [addToRouter, filtered, bind, Except.bind]
      rw [refused]
      exact ⟨by simp, nofun⟩
  | ok filter =>
      have folded : addToRouter matchit metadata handler router =
          metadata.paths.foldlM (fun router path => router.route matchit path (.onFilter filter handler)) router := by
        simp [addToRouter, filtered, bind, Except.bind]
      rw [folded, ← methodToFilter_eq_ok filtered]
      exact (Registers.foldlM (fun path => Registers.route_onFilter path filter handler) metadata.paths
        router keys domain admits).congr ⟨fun _ => ⟨filter, rfl⟩, fun _ _ _ => trivial⟩
        (by rw [← List.map_eq_flatMap])

/-- From a table that routes exactly some keys that matchit admits, `ruma_route` succeeds
exactly when the endpoint's method has a `MethodFilter` and matchit admits the keys with the
endpoint's paths added under its method: every path starts with `/` and parses, none repeats or
is routed with that method already, and none is in conflict with another path of the table or of
the endpoint. Otherwise startup panics. -/
theorem addToRouter_isOk_iff (matchit : Matchit) (metadata : Metadata) (handler : H) (router : Router H)
    (keys : List (String × Method)) (domain : router.Domain keys) (admits : matchit.Admits keys) :
    (∃ after, addToRouter matchit metadata handler router = .ok after) ↔
      (∃ filter, methodToFilter metadata.method = .ok filter) ∧
        matchit.Admits (keys ++ metadata.paths.map (·, metadata.method)) :=
  (addToRouter_registers matchit metadata handler router keys domain admits).isOk_iff

/-- A path without its leading `/` makes `ruma_route` panic on an empty table: matchit does not
admit its key. -/
theorem addToRouter_isOk_iff_unslashed :
    (Router.new : Router Unit).Domain [] ∧ Matchit.renamedParams.Admits [] ∧
      ¬∃ after, addToRouter .renamedParams ⟨.get, ["a"]⟩ () .new = .ok after :=
  ⟨Router.domain_new, .nil, fun built =>
    have admits := ((addToRouter_isOk_iff .renamedParams ⟨.get, ["a"]⟩ () .new [] Router.domain_new .nil).mp built).2
    absurd (admits.accepted ("a", .get) (by simp)).1 (by decide)⟩

end Stages

variable {Endpoint : Type}

/-- The (path, method) keys of a run of `ruma_route` calls: each path of each endpoint's
history, with the endpoint's method. -/
def rumaKeys (metadata : Endpoint → Metadata) (endpoints : List Endpoint) : List (String × Method) :=
  endpoints.flatMap fun endpoint => (metadata endpoint).paths.map (·, (metadata endpoint).method)

/-- The keys `routes` registers, in order. -/
def routeKeys (metadata : Endpoint → Metadata) (clientServer afterState serverServer : List Endpoint) :
    List (String × Method) :=
  rumaKeys metadata clientServer ++ emptyKeyStatePaths.flatMap (fun path => [(path, .get), (path, .put)]) ++
    rumaKeys metadata afterState ++
    [("/_matrix/key/v2/server", .get), ("/_matrix/key/v2/server/:key_id", .get)] ++
    rumaKeys metadata serverServer ++
    [("/_matrix/client/r0/rooms/:room_id/initialSync", .get), ("/_matrix/client/v3/rooms/:room_id/initialSync", .get)]

theorem rumaRoutes_registers (matchit : Matchit) (metadata : Endpoint → Metadata) (endpoints : List Endpoint) :
    Registers matchit (rumaRoutes matchit metadata endpoints)
      (∀ endpoint ∈ endpoints, ∃ filter, methodToFilter (metadata endpoint).method = .ok filter)
      (rumaKeys metadata endpoints) :=
  Registers.foldlM (fun endpoint => addToRouter_registers matchit (metadata endpoint) (Handler.ruma endpoint)) endpoints

theorem emptyKeyStateMethods_routes {methods : MethodRouter (Handler Endpoint)}
    (built : emptyKeyStateMethods = .ok methods) (filter : MethodFilter) :
    (methods.handler filter).isSome ↔ filter.method ∈ [.get, .put] := by
  obtain ⟨get, put⟩ := emptyKeyStateMethods_eq_ok built
  constructor
  · intro routed
    obtain ⟨handler, found⟩ := Option.isSome_iff_exists.mp routed
    rcases emptyKeyStateMethods_only built found with ⟨rfl, -⟩ | ⟨rfl, -⟩ <;> simp [MethodFilter.method]
  · intro member
    cases filter <;> simp [MethodFilter.method, get, put] at member ⊢

/-- The stages of `routes`, chained: the table is built exactly when every Ruma endpoint's
method has a flag and matchit admits the keys of `routes`, and it then routes exactly those
keys. -/
theorem routes_reaches (matchit : Matchit) (metadata : Endpoint → Metadata)
    (clientServer afterState serverServer : List Endpoint) :
    Reaches matchit (routes matchit metadata clientServer afterState serverServer)
      (∀ endpoint ∈ clientServer ++ afterState ++ serverServer,
        ∃ filter, methodToFilter (metadata endpoint).method = .ok filter)
      (routeKeys metadata clientServer afterState serverServer) := by
  obtain ⟨stateMethods, stateBuilt⟩ : ∃ methods, @emptyKeyStateMethods Endpoint = .ok methods := ⟨_, rfl⟩
  have flagged : ∀ method ∈ [Method.get, .put], ∃ filter : MethodFilter, filter.method = method := by
    simp only [List.mem_cons, List.mem_singleton, List.not_mem_nil, or_false]
    rintro _ (rfl | rfl)
    exacts [⟨.get, rfl⟩, ⟨.put, rfl⟩]
  have stages := (rumaRoutes_registers matchit metadata clientServer).bind
    ((Registers.foldlM (fun path => Registers.route path stateMethods [.get, .put] (by decide) (List.cons_ne_nil _ _)
      (emptyKeyStateMethods_routes stateBuilt) flagged) emptyKeyStatePaths).bind
    ((rumaRoutes_registers matchit metadata afterState).bind
    ((Registers.route_onFilter "/_matrix/key/v2/server" .get Handler.getServerKeys).bind
    ((Registers.route_onFilter "/_matrix/key/v2/server/:key_id" .get Handler.getServerKeysDeprecated).bind
    ((rumaRoutes_registers matchit metadata serverServer).bind
    ((Registers.route_onFilter "/_matrix/client/r0/rooms/:room_id/initialSync" .get Handler.initialSync).bind
    ((Registers.route_onFilter "/_matrix/client/v3/rooms/:room_id/initialSync" .get Handler.initialSync).bind
      (Registers.withFallback Handler.notFound))))))))
  unfold routes
  rw [stateBuilt]
  exact (stages .new [] Router.domain_new .nil).congr
    (by simp only [List.forall_mem_append, implies_true, true_and, and_true, and_assoc])
    (by simp [routeKeys, MethodFilter.method])

/-- `routes` builds its table, so the server starts, exactly when every `ruma_route` endpoint's
method has a `MethodFilter` and matchit admits the (path, method) keys `routes` registers,
counting the routes it writes itself: no key repeats, every path starts with `/` and parses, and
no two paths are in conflict. Otherwise it panics. -/
theorem routes_isOk_iff (matchit : Matchit) (metadata : Endpoint → Metadata)
    (clientServer afterState serverServer : List Endpoint) :
    (∃ router, routes matchit metadata clientServer afterState serverServer = .ok router) ↔
      (∀ endpoint ∈ clientServer ++ afterState ++ serverServer,
        ∃ filter, methodToFilter (metadata endpoint).method = .ok filter) ∧
        matchit.Admits (routeKeys metadata clientServer afterState serverServer) :=
  (routes_reaches matchit metadata clientServer afterState serverServer).isOk_iff

/-- `routes` panics when two of the paths it registers first differ inside a parameter of both,
which then names one place of the path twice, as `:room_id` and `:roomid` would: matchit refuses
whichever of the two comes second. -/
theorem routes_panics_of_renamesParam (matchit : Matchit) (metadata : Endpoint → Metadata)
    (clientServer afterState serverServer : List Endpoint) {template other : String}
    (registered : template ∈ (routeKeys metadata clientServer afterState serverServer).map Prod.fst)
    (registered' : other ∈ (routeKeys metadata clientServer afterState serverServer).map Prod.fst)
    (renames : renamesParam false template.toList other.toList = true) :
    ¬∃ router, routes matchit metadata clientServer afterState serverServer = .ok router := by
  intro built
  obtain ⟨-, admits⟩ := (routes_reaches matchit metadata clientServer afterState serverServer).isOk_iff.mp built
  obtain ⟨⟨template, method⟩, member, rfl⟩ := List.mem_map.mp registered
  obtain ⟨⟨other, method'⟩, member', rfl⟩ := List.mem_map.mp registered'
  have distinct : template ≠ other := by
    rintro rfl
    rw [renamesParam_self] at renames
    cases renames
  have apart := admits.conflict_eq_false member member' distinct
  rw [matchit.conflict_of_renamesParam _ _ renames] at apart
  cases apart

/-- A Ruma endpoint at `rooms/:roomid/members` next to the `rooms/:room_id/initialSync` routes of
`routes` makes the server panic at startup. -/
theorem routes_roomid_members_panics :
    "/_matrix/client/v3/rooms/:roomid/members" ∈
        (routeKeys (fun _ => ⟨.get, ["/_matrix/client/v3/rooms/:roomid/members"]⟩) [()] [] []).map Prod.fst ∧
      "/_matrix/client/v3/rooms/:room_id/initialSync" ∈
        (routeKeys (fun _ => ⟨.get, ["/_matrix/client/v3/rooms/:roomid/members"]⟩) [()] [] []).map Prod.fst ∧
      renamesParam false "/_matrix/client/v3/rooms/:roomid/members".toList
        "/_matrix/client/v3/rooms/:room_id/initialSync".toList = true ∧
      ¬∃ router, routes .renamedParams (fun _ => ⟨.get, ["/_matrix/client/v3/rooms/:roomid/members"]⟩) [()] [] [] =
        .ok router :=
  ⟨by decide, by decide, by decide,
    @routes_panics_of_renamesParam Unit .renamedParams _ [()] [] [] "/_matrix/client/v3/rooms/:roomid/members"
      "/_matrix/client/v3/rooms/:room_id/initialSync" (by decide) (by decide) (by decide)⟩

section Reorder

variable {clientServer afterState serverServer clientServer' afterState' serverServer' : List Endpoint}

theorem routeKeys_perm (metadata : Endpoint → Metadata)
    (perm : (clientServer ++ afterState ++ serverServer).Perm (clientServer' ++ afterState' ++ serverServer')) :
    (routeKeys metadata clientServer afterState serverServer).Perm
      (routeKeys metadata clientServer' afterState' serverServer') := by
  have keys := perm.flatMap_right fun endpoint => (metadata endpoint).paths.map (·, (metadata endpoint).method)
  rw [List.perm_iff_count] at keys ⊢
  intro key
  have counted := keys key
  simp only [List.flatMap_append, List.count_append] at counted
  simp only [routeKeys, rumaKeys, List.count_append]
  omega

theorem registered_perm {metadata : Endpoint → Metadata}
    (perm : (clientServer ++ afterState ++ serverServer).Perm (clientServer' ++ afterState' ++ serverServer'))
    (path : String) (filter : MethodFilter) (handler : Handler Endpoint) :
    Registered metadata clientServer afterState serverServer path filter handler ↔
      Registered metadata clientServer' afterState' serverServer' path filter handler := by
  cases handler <;> simp only [Registered, perm.mem_iff]

/-- The order of the `ruma_route` calls in `routes`, and which of its three runs each is in,
change neither whether the table is built nor any route of it: matchit's conflicts are
symmetric, so whichever of two paths in conflict comes second is refused. -/
theorem routes_reorder (matchit : Matchit) (metadata : Endpoint → Metadata)
    (perm : (clientServer ++ afterState ++ serverServer).Perm (clientServer' ++ afterState' ++ serverServer')) :
    ((∃ router, routes matchit metadata clientServer afterState serverServer = .ok router) ↔
        ∃ router, routes matchit metadata clientServer' afterState' serverServer' = .ok router) ∧
      ∀ router router', routes matchit metadata clientServer afterState serverServer = .ok router →
        routes matchit metadata clientServer' afterState' serverServer' = .ok router' →
          router.fallback = router'.fallback ∧ ∀ path filter, router.lookup path filter = router'.lookup path filter := by
  have keys := routeKeys_perm metadata perm
  refine ⟨?_, fun router router' built built' => ⟨?_, fun path filter => Option.ext fun handler => ?_⟩⟩
  · rw [(routes_reaches ..).isOk_iff, (routes_reaches ..).isOk_iff]
    simp only [perm.mem_iff]
    exact and_congr_right fun _ => ⟨(·.perm keys), (·.perm keys.symm)⟩
  · rw [(routes_eq_ok built).1, (routes_eq_ok built').1]
  · rw [Option.mem_def, Option.mem_def, routes_lookup_iff built, routes_lookup_iff built', registered_perm perm]

/-- Two endpoints registered in either order, in different runs: the table is built either way. -/
theorem routes_swapped_endpoints :
    ([true, false] ++ [] ++ []).Perm ([] ++ [false] ++ [true]) ∧
      ((∃ router, routes .renamedParams (fun versions => if versions then ⟨.get, ["/_matrix/client/versions"]⟩
          else ⟨.post, ["/_matrix/client/v3/login"]⟩) [true, false] [] [] = .ok router) ↔
        ∃ router, routes .renamedParams (fun versions => if versions then ⟨.get, ["/_matrix/client/versions"]⟩
          else ⟨.post, ["/_matrix/client/v3/login"]⟩) [] [false] [true] = .ok router) :=
  ⟨by decide, (routes_reorder .renamedParams _ (by decide)).1⟩

end Reorder

end MatrixServer.Routing
