import MatrixServer.Routing.Router

/-!
# The server's route table

`routes` (`src/main.rs`) registers the Ruma endpoints with `ruma_route`; by hand, the state
event of an empty key, which shares its Ruma request type with the keyed one, at its `r0` and
`v3` paths with and without a trailing slash; the two server-key routes; the two
`initialSync` routes; and `not_found` as the fallback. The Ruma endpoints come in three runs
between the routes written by hand, and their metadata is Ruma's. When the table is built,
every registration is served as it was registered: none replaces another.
-/

set_option autoImplicit false

namespace MatrixServer.Routing

/-- The handlers of the table: a Ruma endpoint's, or one that `routes` names itself. -/
inductive Handler (Endpoint : Type)
  | ruma (endpoint : Endpoint)
  | getStateEventsForEmptyKey
  | sendStateEventForEmptyKey
  | getServerKeys
  | getServerKeysDeprecated
  | initialSync
  | notFound
  deriving DecidableEq, Repr

variable {Endpoint : Type} {matchit : Matchit}

/-- The paths of the state event of an empty key, in the order `routes` registers them. -/
def emptyKeyStatePaths : List String :=
  ["/_matrix/client/r0/rooms/:room_id/state/:event_type",
    "/_matrix/client/v3/rooms/:room_id/state/:event_type",
    "/_matrix/client/r0/rooms/:room_id/state/:event_type/",
    "/_matrix/client/v3/rooms/:room_id/state/:event_type/"]

/-- `get(get_state_events_for_empty_key_route).put(send_state_event_for_empty_key_route)`. -/
def emptyKeyStateMethods : Except Panic (MethodRouter (Handler Endpoint)) :=
  (MethodRouter.get .getStateEventsForEmptyKey).put .sendStateEventForEmptyKey

/-- `ruma_route` for each endpoint of a run, in order. -/
def rumaRoutes (matchit : Matchit) (metadata : Endpoint → Metadata) (endpoints : List Endpoint)
    (router : Router (Handler Endpoint)) : Except Panic (Router (Handler Endpoint)) :=
  endpoints.foldlM (fun router endpoint => addToRouter matchit (metadata endpoint) (.ruma endpoint) router) router

/-- `routes()`. `clientServer` are the `ruma_route` calls before the empty-key state routes,
`afterState` those between them and the server-key routes, and `serverServer` those between
the server-key routes and `initialSync`. -/
def routes (matchit : Matchit) (metadata : Endpoint → Metadata) (clientServer afterState serverServer : List Endpoint) :
    Except Panic (Router (Handler Endpoint)) := do
  let router ← rumaRoutes matchit metadata clientServer .new
  let stateMethods ← emptyKeyStateMethods
  let router ← emptyKeyStatePaths.foldlM (fun router path => router.route matchit path stateMethods) router
  let router ← rumaRoutes matchit metadata afterState router
  let router ← router.route matchit "/_matrix/key/v2/server" (.get .getServerKeys)
  let router ← router.route matchit "/_matrix/key/v2/server/:key_id" (.get .getServerKeysDeprecated)
  let router ← rumaRoutes matchit metadata serverServer router
  let router ← router.route matchit "/_matrix/client/r0/rooms/:room_id/initialSync" (.get .initialSync)
  let router ← router.route matchit "/_matrix/client/v3/rooms/:room_id/initialSync" (.get .initialSync)
  pure (router.withFallback .notFound)

theorem emptyKeyStateMethods_eq_ok {methods : MethodRouter (Handler Endpoint)}
    (built : emptyKeyStateMethods = .ok methods) :
    methods.handler .get = some .getStateEventsForEmptyKey ∧
      methods.handler .put = some .sendStateEventForEmptyKey := by
  unfold emptyKeyStateMethods MethodRouter.put at built
  have routes := (MethodRouter.merge_eq_ok built).2
  exact ⟨by simp [routes, MethodRouter.get], by simp [routes, MethodRouter.get]⟩

/-- An endpoint's routes: each path of its history routes the flag of its method to it. -/
def Serves (metadata : Endpoint → Metadata) (endpoint : Endpoint) (router : Router (Handler Endpoint)) : Prop :=
  ∃ filter : MethodFilter, filter.method = (metadata endpoint).method ∧
    ∀ path ∈ (metadata endpoint).paths, router.lookup path filter = some (.ruma endpoint)

theorem Serves.extend {metadata : Endpoint → Metadata} {endpoint : Endpoint} {before after : Router (Handler Endpoint)}
    (serves : Serves metadata endpoint before) (extended : before.Extends after) : Serves metadata endpoint after :=
  let ⟨filter, method, routed⟩ := serves
  ⟨filter, method, fun path member => extended.keeps _ _ _ (routed path member)⟩

theorem rumaRoutes_eq_ok {metadata : Endpoint → Metadata} {endpoints : List Endpoint}
    {router after : Router (Handler Endpoint)} (built : rumaRoutes matchit metadata endpoints router = .ok after) :
    router.Extends after ∧ ∀ endpoint ∈ endpoints, Serves metadata endpoint after :=
  Router.foldlM_extends (Serves metadata) (fun _ _ _ serves extended => serves.extend extended)
    (fun _ _ _ added => ⟨(addToRouter_eq_ok added).1, (addToRouter_eq_ok added).2.1⟩) endpoints router after built

/-- Each of the four empty-key state paths routes `GET` and `PUT` to their handlers. -/
def ServesEmptyKeyState (path : String) (router : Router (Handler Endpoint)) : Prop :=
  router.lookup path .get = some .getStateEventsForEmptyKey ∧
    router.lookup path .put = some .sendStateEventForEmptyKey

theorem routes_stages {metadata : Endpoint → Metadata}
    {clientServer afterState serverServer : List Endpoint} {router : Router (Handler Endpoint)}
    (built : routes matchit metadata clientServer afterState serverServer = .ok router) :
    ∃ (clientRoutes : Router (Handler Endpoint)) (stateMethods : MethodRouter (Handler Endpoint))
      (stateRoutes moreRoutes keyRoutes oldKeyRoutes serverRoutes r0SyncRoutes table : Router (Handler Endpoint)),
      rumaRoutes matchit metadata clientServer .new = .ok clientRoutes ∧ emptyKeyStateMethods = .ok stateMethods ∧
      emptyKeyStatePaths.foldlM (fun router path => router.route matchit path stateMethods) clientRoutes = .ok stateRoutes ∧
      rumaRoutes matchit metadata afterState stateRoutes = .ok moreRoutes ∧
      moreRoutes.route matchit "/_matrix/key/v2/server" (.get .getServerKeys) = .ok keyRoutes ∧
      keyRoutes.route matchit "/_matrix/key/v2/server/:key_id" (.get .getServerKeysDeprecated) = .ok oldKeyRoutes ∧
      rumaRoutes matchit metadata serverServer oldKeyRoutes = .ok serverRoutes ∧
      serverRoutes.route matchit "/_matrix/client/r0/rooms/:room_id/initialSync" (.get .initialSync) = .ok r0SyncRoutes ∧
      r0SyncRoutes.route matchit "/_matrix/client/v3/rooms/:room_id/initialSync" (.get .initialSync) = .ok table ∧
      router = table.withFallback .notFound := by
  unfold routes at built
  obtain ⟨clientRoutes, clientBuilt, built⟩ := Router.except_bind_eq_ok built
  obtain ⟨stateMethods, stateMethodsBuilt, built⟩ := Router.except_bind_eq_ok built
  obtain ⟨stateRoutes, stateBuilt, built⟩ := Router.except_bind_eq_ok built
  obtain ⟨moreRoutes, moreBuilt, built⟩ := Router.except_bind_eq_ok built
  obtain ⟨keyRoutes, keyBuilt, built⟩ := Router.except_bind_eq_ok built
  obtain ⟨oldKeyRoutes, oldKeyBuilt, built⟩ := Router.except_bind_eq_ok built
  obtain ⟨serverRoutes, serverBuilt, built⟩ := Router.except_bind_eq_ok built
  obtain ⟨r0SyncRoutes, r0SyncBuilt, built⟩ := Router.except_bind_eq_ok built
  obtain ⟨table, v3SyncBuilt, built⟩ := Router.except_bind_eq_ok built
  cases built
  exact ⟨_, _, _, _, _, _, _, _, _, clientBuilt, stateMethodsBuilt, stateBuilt, moreBuilt, keyBuilt, oldKeyBuilt,
    serverBuilt, r0SyncBuilt, v3SyncBuilt, rfl⟩

/-- When `routes` builds its table, every registration is served as it was registered: each
Ruma endpoint at every path of its history under its method, the state event of an empty key
(`GET` and `PUT`) at its four paths, the two server-key routes, the two `initialSync` routes,
and `not_found` as the fallback. -/
theorem routes_eq_ok {metadata : Endpoint → Metadata}
    {clientServer afterState serverServer : List Endpoint} {router : Router (Handler Endpoint)}
    (built : routes matchit metadata clientServer afterState serverServer = .ok router) :
    router.fallback = some .notFound ∧
      (∀ endpoint ∈ clientServer ++ afterState ++ serverServer, Serves metadata endpoint router) ∧
      (∀ path ∈ emptyKeyStatePaths, router.lookup path .get = some .getStateEventsForEmptyKey ∧
        router.lookup path .put = some .sendStateEventForEmptyKey) ∧
      router.lookup "/_matrix/key/v2/server" .get = some .getServerKeys ∧
      router.lookup "/_matrix/key/v2/server/:key_id" .get = some .getServerKeysDeprecated ∧
      router.lookup "/_matrix/client/r0/rooms/:room_id/initialSync" .get = some .initialSync ∧
      router.lookup "/_matrix/client/v3/rooms/:room_id/initialSync" .get = some .initialSync := by
  obtain ⟨clientRoutes, stateMethods, stateRoutes, moreRoutes, keyRoutes, oldKeyRoutes, serverRoutes, r0SyncRoutes,
    table, clientBuilt, stateMethodsBuilt, stateBuilt, moreBuilt, keyBuilt, oldKeyBuilt, serverBuilt, r0SyncBuilt,
    v3SyncBuilt, rfl⟩ := routes_stages built
  obtain ⟨stateGet, statePut⟩ := emptyKeyStateMethods_eq_ok stateMethodsBuilt
  have state := Router.foldlM_extends ServesEmptyKeyState
    (fun _ _ _ serves extended => ⟨extended.keeps _ _ _ serves.1, extended.keeps _ _ _ serves.2⟩)
    (fun _ _ _ added => ⟨Router.route_extends added,
      Router.route_adds added stateGet, Router.route_adds added statePut⟩) _ _ _ stateBuilt
  have fromR0Sync := Router.route_extends v3SyncBuilt
  have fromServer := (Router.route_extends r0SyncBuilt).trans fromR0Sync
  have fromOldKey := (rumaRoutes_eq_ok serverBuilt).1.trans fromServer
  have fromKey := (Router.route_extends oldKeyBuilt).trans fromOldKey
  have fromMore := (Router.route_extends keyBuilt).trans fromKey
  have fromState := (rumaRoutes_eq_ok moreBuilt).1.trans fromMore
  have fromClient := state.1.trans fromState
  have keep := fun {before} (extended : Router.Extends before table) => extended.keeps
  refine ⟨rfl, fun endpoint member => ?_, fun path member => ?_, ?_, ?_, ?_, ?_⟩
  · rcases List.mem_append.mp member with early | late
    · rcases List.mem_append.mp early with client | more
      · exact (((rumaRoutes_eq_ok clientBuilt).2 endpoint client).extend fromClient :)
      · exact (((rumaRoutes_eq_ok moreBuilt).2 endpoint more).extend fromMore :)
    · exact (((rumaRoutes_eq_ok serverBuilt).2 endpoint late).extend fromServer :)
  · obtain ⟨get, put⟩ := state.2 path member
    exact ⟨keep fromState _ _ _ get, keep fromState _ _ _ put⟩
  · exact keep fromKey _ _ _ (Router.route_adds keyBuilt (by simp [MethodRouter.get]))
  · exact keep fromOldKey _ _ _ (Router.route_adds oldKeyBuilt (by simp [MethodRouter.get]))
  · exact keep fromR0Sync _ _ _ (Router.route_adds r0SyncBuilt (by simp [MethodRouter.get]))
  · exact Router.route_adds v3SyncBuilt (by simp [MethodRouter.get])

theorem emptyKeyStateMethods_only {methods : MethodRouter (Handler Endpoint)}
    (built : emptyKeyStateMethods = .ok methods) {filter : MethodFilter} {handler : Handler Endpoint}
    (routed : methods.handler filter = some handler) :
    filter = .get ∧ handler = .getStateEventsForEmptyKey ∨ filter = .put ∧ handler = .sendStateEventForEmptyKey := by
  unfold emptyKeyStateMethods MethodRouter.put at built
  rw [(MethodRouter.merge_eq_ok built).2] at routed
  cases filter <;> simp [MethodRouter.get, eq_comm] at routed ⊢ <;> exact routed

/-- What `routes` registers, by handler: the paths and the flag each one is registered under. -/
def Registered (metadata : Endpoint → Metadata) (clientServer afterState serverServer : List Endpoint)
    (path : String) (filter : MethodFilter) : Handler Endpoint → Prop
  | .ruma endpoint => endpoint ∈ clientServer ++ afterState ++ serverServer ∧
      path ∈ (metadata endpoint).paths ∧ filter.method = (metadata endpoint).method
  | .getStateEventsForEmptyKey => path ∈ emptyKeyStatePaths ∧ filter = .get
  | .sendStateEventForEmptyKey => path ∈ emptyKeyStatePaths ∧ filter = .put
  | .getServerKeys => path = "/_matrix/key/v2/server" ∧ filter = .get
  | .getServerKeysDeprecated => path = "/_matrix/key/v2/server/:key_id" ∧ filter = .get
  | .initialSync => (path = "/_matrix/client/r0/rooms/:room_id/initialSync" ∨
      path = "/_matrix/client/v3/rooms/:room_id/initialSync") ∧ filter = .get
  | .notFound => False

section Registered

variable {metadata : Endpoint → Metadata} {clientServer afterState serverServer : List Endpoint}
  {before after : Router (Handler Endpoint)}

/-- Every route of the table is one that `routes` registers. -/
def AllRegistered (metadata : Endpoint → Metadata) (clientServer afterState serverServer : List Endpoint)
    (router : Router (Handler Endpoint)) : Prop :=
  ∀ path filter handler, router.lookup path filter = some handler →
    Registered metadata clientServer afterState serverServer path filter handler

theorem AllRegistered.new : AllRegistered metadata clientServer afterState serverServer .new :=
  fun _ _ _ found => by simp [Router.lookup, Router.new] at found

theorem AllRegistered.of_only (valid : AllRegistered metadata clientServer afterState serverServer before)
    (only : ∀ path filter handler, after.lookup path filter = some handler →
      before.lookup path filter = some handler ∨
        Registered metadata clientServer afterState serverServer path filter handler) :
    AllRegistered metadata clientServer afterState serverServer after :=
  fun path filter handler found => (only path filter handler found).elim (valid path filter handler) id

theorem AllRegistered.rumaRoutes (valid : AllRegistered metadata clientServer afterState serverServer before)
    {endpoints : List Endpoint} (within : ∀ endpoint ∈ endpoints, endpoint ∈ clientServer ++ afterState ++ serverServer)
    (built : rumaRoutes matchit metadata endpoints before = .ok after) :
    AllRegistered metadata clientServer afterState serverServer after :=
  valid.of_only fun path filter handler found =>
    (Router.foldlM_only (fun endpoint path filter handler => handler = .ruma endpoint ∧
        path ∈ (metadata endpoint).paths ∧ filter.method = (metadata endpoint).method)
      (fun _ _ _ added path filter handler found => ((addToRouter_eq_ok added).2.2 path filter handler found).imp_right
        fun ⟨onPath, method, same⟩ => ⟨same, onPath, method⟩)
      endpoints before after built path filter handler found).imp_right
      fun ⟨endpoint, member, same, onPath, method⟩ => same ▸ ⟨within endpoint member, onPath, method⟩

theorem AllRegistered.emptyKeyState (valid : AllRegistered metadata clientServer afterState serverServer before)
    {methods : MethodRouter (Handler Endpoint)} (methodsBuilt : emptyKeyStateMethods = .ok methods)
    (built : emptyKeyStatePaths.foldlM (fun router path => router.route matchit path methods) before = .ok after) :
    AllRegistered metadata clientServer afterState serverServer after :=
  valid.of_only fun path filter handler found =>
    (Router.foldlM_only (fun item path filter handler => path = item ∧ methods.handler filter = some handler)
      (fun _ _ _ routes _ _ _ found => Router.route_only routes found)
      emptyKeyStatePaths before after built path filter handler found).imp_right
      fun ⟨_, member, same, routed⟩ => by
        rcases emptyKeyStateMethods_only methodsBuilt routed with ⟨rfl, rfl⟩ | ⟨rfl, rfl⟩
        · exact ⟨same ▸ member, rfl⟩
        · exact ⟨same ▸ member, rfl⟩

theorem AllRegistered.route_get (valid : AllRegistered metadata clientServer afterState serverServer before)
    {path : String} {handler : Handler Endpoint} (built : before.route matchit path (.get handler) = .ok after)
    (registered : Registered metadata clientServer afterState serverServer path .get handler) :
    AllRegistered metadata clientServer afterState serverServer after :=
  valid.of_only fun _ _ _ found =>
    (Router.route_onFilter_only built found).imp_right fun ⟨same, filter, routed⟩ => by
      subst same filter routed
      exact registered

/-- The table `routes` builds routes only what it registers. -/
theorem routes_only {router : Router (Handler Endpoint)}
    (built : routes matchit metadata clientServer afterState serverServer = .ok router) :
    AllRegistered metadata clientServer afterState serverServer router := by
  obtain ⟨clientRoutes, stateMethods, stateRoutes, moreRoutes, keyRoutes, oldKeyRoutes, serverRoutes, r0SyncRoutes,
    table, clientBuilt, stateMethodsBuilt, stateBuilt, moreBuilt, keyBuilt, oldKeyBuilt, serverBuilt, r0SyncBuilt,
    v3SyncBuilt, rfl⟩ := routes_stages built
  have tableValid : AllRegistered metadata clientServer afterState serverServer table :=
    (((((((AllRegistered.new.rumaRoutes (fun _ member => by simp [member]) clientBuilt).emptyKeyState
      stateMethodsBuilt stateBuilt).rumaRoutes (fun _ member => by simp [member]) moreBuilt).route_get
      keyBuilt ⟨rfl, rfl⟩).route_get oldKeyBuilt ⟨rfl, rfl⟩).rumaRoutes (fun _ member => by simp [member])
      serverBuilt).route_get r0SyncBuilt ⟨.inl rfl, rfl⟩).route_get v3SyncBuilt ⟨.inr rfl, rfl⟩
  simpa only [AllRegistered, Router.lookup_withFallback] using tableValid

theorem routes_lookup_iff {router : Router (Handler Endpoint)}
    (built : routes matchit metadata clientServer afterState serverServer = .ok router) (path : String)
    (filter : MethodFilter) (handler : Handler Endpoint) :
    router.lookup path filter = some handler ↔
      Registered metadata clientServer afterState serverServer path filter handler := by
  obtain ⟨-, serves, state, key, oldKey, r0Sync, v3Sync⟩ := routes_eq_ok built
  refine ⟨routes_only built path filter handler, fun registered => ?_⟩
  cases handler with
  | ruma endpoint =>
    obtain ⟨member, onPath, method⟩ := registered
    obtain ⟨served, servedMethod, servedPaths⟩ := serves endpoint member
    rw [← MethodFilter.method_injective (servedMethod.trans method.symm)]
    exact servedPaths path onPath
  | getStateEventsForEmptyKey => exact registered.2 ▸ (state path registered.1).1
  | sendStateEventForEmptyKey => exact registered.2 ▸ (state path registered.1).2
  | getServerKeys => exact registered.1 ▸ registered.2 ▸ key
  | getServerKeysDeprecated => exact registered.1 ▸ registered.2 ▸ oldKey
  | initialSync => obtain ⟨rfl | rfl, rfl⟩ := registered <;> assumption
  | notFound => exact registered.elim

/-- The table `routes` builds is exactly the one it registers: a handler is routed at a path for
a flag if and only if `routes` names it there, and `not_found` is the fallback. -/
theorem routes_table_exact {router : Router (Handler Endpoint)}
    (built : routes matchit metadata clientServer afterState serverServer = .ok router) :
    router.fallback = some .notFound ∧ ∀ path filter handler, router.lookup path filter = some handler ↔
      Registered metadata clientServer afterState serverServer path filter handler :=
  ⟨(routes_eq_ok built).1, routes_lookup_iff built⟩

/-- A table with only the two paths of `joined_rooms` routes `GET` there and nothing for `POST`. -/
theorem routes_joined_rooms_get_only : ∃ router : Router (Handler Unit),
    routes .renamedParams (fun _ => ⟨.get, ["/_matrix/client/r0/joined_rooms", "/_matrix/client/v3/joined_rooms"]⟩)
        [()] [] [] = .ok router ∧
      router.lookup "/_matrix/client/v3/joined_rooms" .get = some (.ruma ()) ∧
      router.lookup "/_matrix/client/v3/joined_rooms" .post = none := by
  refine ⟨_, rfl, ?_⟩
  have exact := (@routes_table_exact Unit .renamedParams
    (fun _ => ⟨.get, ["/_matrix/client/r0/joined_rooms", "/_matrix/client/v3/joined_rooms"]⟩) [()] [] [] _ rfl).2
  refine ⟨(exact _ _ _).2 ⟨.head _, .tail _ (.head _), rfl⟩,
    Option.eq_none_iff_forall_not_mem.2 fun handler found => ?_⟩
  have registered := (exact _ _ _).1 found
  cases handler <;> simp [Registered, emptyKeyStatePaths, MethodFilter.method] at registered

end Registered

end MatrixServer.Routing
