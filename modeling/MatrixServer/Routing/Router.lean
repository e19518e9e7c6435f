import MatrixServer.Routing.Method

/-!
# The route table

An axum `Router` holds one method router per path, and the path templates it has inserted into
its matchit tree. `Router::route` panics on an empty path and on one that does not start with
`/`. A path the table has already gets the new method router merged into its own, which panics
where the two overlap; a new path is inserted into the tree, where matchit refuses a template it
cannot parse or one in conflict with a template inserted before it. `ruma_route` (`add_to_router`
in `src/main.rs`) registers a Ruma endpoint's handler on every path of its history, under the
flag of its method. A registration that does not panic keeps every route the table had, so a
table that is built has every route registered into it, each with its own handler.
-/

set_option autoImplicit false

namespace MatrixServer.Routing

/-- Whether two route templates first differ inside a parameter of both, which then names one
place of the path twice. A parameter runs from its `:` to the next `/`, and `inParam` says
whether the characters read so far end inside one. -/
def renamesParam (inParam : Bool) : List Char → List Char → Bool
  | [], [] => false
  | [], next :: _ | next :: _, [] => inParam && next != '/'
  | next :: rest, next' :: rest' =>
      if next = next' then renamesParam (next == ':' || inParam && next != '/') rest rest'
      else inParam && next != '/' && next' != '/'

theorem renamesParam_self (inParam : Bool) (template : List Char) :
    renamesParam inParam template template = false := by
  induction template generalizing inParam with
  | nil => rfl
  | cons next rest ih => simp [renamesParam, ih]

theorem renamesParam_comm (inParam : Bool) (template other : List Char) :
    renamesParam inParam template other = renamesParam inParam other template := by
  induction template generalizing inParam other with
  | nil => cases other <;> rfl
  | cons next rest ih =>
      cases other with
      | nil => rfl
      | cons next' rest' =>
          by_cases same : next = next'
          · subst same
            simp [renamesParam, ih]
          · simp [renamesParam, same, Ne.symm same, Bool.and_right_comm]

/-- What matchit's `Node::insert` refuses, for `Router::route` to panic on: a template it cannot
parse, or one in conflict with a template inserted before it. matchit is not part of this crate,
so its conflicts are a relation with the two properties the proofs use: a conflict is
symmetric, and two templates conflict when they first differ inside a parameter of both, a
wildcard that matchit would have to name twice. -/
structure Matchit where
  malformed : String → Bool
  conflict : String → String → Bool
  conflict_comm : ∀ template other, conflict template other = conflict other template
  conflict_of_renamesParam : ∀ template other,
    renamesParam false template.toList other.toList = true → conflict template other = true

/-- The matchit with the fewest conflicts the properties allow: it refuses renamed parameters
only. -/
def Matchit.renamedParams : Matchit where
  malformed _ := false
  conflict template other := renamesParam false template.toList other.toList
  conflict_comm _ _ := renamesParam_comm false _ _
  conflict_of_renamesParam _ _ := id

/-- An axum `Router`: the method router at each path, the templates of its matchit tree in the
order they were inserted, which are the paths with a method router, and the fallback service. -/
structure Router (H : Type) where
  paths : String → Option (MethodRouter H)
  templates : List String
  fallback : Option H
  mem_templates : ∀ path, path ∈ templates ↔ (paths path).isSome

namespace Router

variable {H : Type}

/-- `Router::new()`. -/
def new : Router H := ⟨fun _ => none, [], none, by simp⟩

/-- The table with `methods` at `path`, whose template is inserted into the tree when it is new. -/
def insert (router : Router H) (path : String) (methods : MethodRouter H) : Router H where
  paths := Function.update router.paths path (some methods)
  templates := if (router.paths path).isSome then router.templates else router.templates ++ [path]
  fallback := router.fallback
  mem_templates routed := by
    by_cases same : routed = path
    · subst same
      split_ifs with present <;> simp [router.mem_templates, present]
    · split_ifs <;> simp [router.mem_templates, same]

/-- `Router::route`. Its checks `path.is_empty()` and `!path.starts_with('/')` read the first
character of the path. A path the table has gets the two method routers merged; a new one is
inserted into the matchit tree. -/
def route (matchit : Matchit) (router : Router H) (path : String) (methods : MethodRouter H) :
    Except Panic (Router H) :=
  match path.toList with
  | [] => .error .emptyPath
  | first :: _ =>
      if first ≠ '/' then .error .missingLeadingSlash
      else match router.paths path with
        | some previous => do
            let merged ← previous.merge methods
            pure (router.insert path merged)
        | none =>
            if matchit.malformed path || router.templates.any (matchit.conflict · path) then
              .error (.invalidRoute path)
            else pure (router.insert path methods)

/-- `Router::fallback`. -/
def withFallback (router : Router H) (handler : H) : Router H := { router with fallback := some handler }

/-- The handler a path routes a flag to. -/
def lookup (router : Router H) (path : String) (filter : MethodFilter) : Option H :=
  (router.paths path).bind fun methods => methods.handler filter

/-- `after` routes everything `before` routes, to the same handler, with the same fallback. -/
structure Extends (before after : Router H) : Prop where
  keeps : ∀ path filter handler, before.lookup path filter = some handler → after.lookup path filter = some handler
  fallback : after.fallback = before.fallback

theorem Extends.refl (router : Router H) : Extends router router := ⟨fun _ _ _ => id, rfl⟩

theorem Extends.trans {before middle after : Router H} (first : Extends before middle)
    (second : Extends middle after) : Extends before after :=
  ⟨fun path filter handler routed => second.keeps path filter handler (first.keeps path filter handler routed),
    second.fallback.trans first.fallback⟩

theorem except_bind_eq_ok {α β ε : Type} {action : Except ε α} {next : α → Except ε β} {result : β}
    (accepted : action >>= next = .ok result) : ∃ value, action = .ok value ∧ next value = .ok result := by
  cases action with
  | error => cases accepted
  | ok value => exact ⟨value, rfl, accepted⟩

@[simp] theorem insert_lookup (router : Router H) (path : String) (methods : MethodRouter H) (routed : String)
    (filter : MethodFilter) :
    (router.insert path methods).lookup routed filter =
      if routed = path then methods.handler filter else router.lookup routed filter := by
  by_cases same : routed = path
  · subst same
    simp [insert, lookup]
  · simp [insert, lookup, same]

theorem mem_insert_templates (router : Router H) (path : String) (methods : MethodRouter H) (template : String) :
    template ∈ (router.insert path methods).templates ↔ template ∈ router.templates ∨ template = path := by
  rw [(router.insert path methods).mem_templates, router.mem_templates]
  by_cases same : template = path
  · subst same
    simp [insert]
  · simp [insert, same]

section Route

variable {matchit : Matchit} {router after : Router H} {path : String} {methods : MethodRouter H}

theorem route_eq_insert (accepted : router.route matchit path methods = .ok after) :
    (∀ filter, router.lookup path filter = none ∨ methods.handler filter = none) ∧
      ∃ merged : MethodRouter H,
        (∀ filter, merged.handler filter = (router.lookup path filter).or (methods.handler filter)) ∧
          after = router.insert path merged := by
  unfold route at accepted
  split at accepted
  · cases accepted
  · rename_i first _ _
    by_cases slash : first = '/'
    · simp only [slash, ne_eq, not_true_eq_false, if_false] at accepted
      cases atPath : router.paths path with
      | some previous =>
          rw [atPath] at accepted
          obtain ⟨merged, mergedOk, built⟩ := except_bind_eq_ok accepted
          cases built
          obtain ⟨disjoint, routes⟩ := MethodRouter.merge_eq_ok mergedOk
          exact ⟨by simpa [lookup, atPath] using disjoint, merged, by simp [lookup, atPath, routes], rfl⟩
      | none =>
          rw [atPath] at accepted
          split_ifs at accepted
          cases accepted
          exact ⟨by simp [lookup, atPath], methods, by simp [lookup, atPath], rfl⟩
    · simp [slash] at accepted

/-- A registration that does not panic routes each flag at the path to the old handler or else
the new one, and changes neither another path nor the fallback. -/
theorem route_eq_ok (accepted : router.route matchit path methods = .ok after) :
    after.fallback = router.fallback ∧
      (∀ filter, router.lookup path filter = none ∨ methods.handler filter = none) ∧
      ∀ routed filter, after.lookup routed filter =
        if routed = path then (router.lookup path filter).or (methods.handler filter)
        else router.lookup routed filter := by
  obtain ⟨disjoint, merged, routes, rfl⟩ := route_eq_insert accepted
  exact ⟨rfl, disjoint, fun routed filter => by simp only [insert_lookup, routes]⟩

theorem route_templates (accepted : router.route matchit path methods = .ok after) (template : String) :
    template ∈ after.templates ↔ template ∈ router.templates ∨ template = path := by
  obtain ⟨-, merged, -, rfl⟩ := route_eq_insert accepted
  exact mem_insert_templates router path merged template

theorem route_extends (accepted : router.route matchit path methods = .ok after) : Extends router after := by
  obtain ⟨fallback, -, routes⟩ := route_eq_ok accepted
  refine ⟨fun routed filter handler found => ?_, fallback⟩
  rw [routes]
  split_ifs with same
  · subst same
    simp [found]
  · exact found

theorem route_adds (accepted : router.route matchit path methods = .ok after) {filter : MethodFilter}
    {handler : H} (routed : methods.handler filter = some handler) : after.lookup path filter = some handler := by
  obtain ⟨-, disjoint, routes⟩ := route_eq_ok accepted
  have free : router.lookup path filter = none := (disjoint filter).resolve_right (by simp [routed])
  simp [routes, free, routed]

theorem route_lookup_of_ne (accepted : router.route matchit path methods = .ok after) {routed : String}
    (other : routed ≠ path) (filter : MethodFilter) : after.lookup routed filter = router.lookup routed filter := by
  rw [(route_eq_ok accepted).2.2, if_neg other]

theorem route_only (accepted : router.route matchit path methods = .ok after) {routed : String}
    {filter : MethodFilter} {handler : H} (found : after.lookup routed filter = some handler) :
    router.lookup routed filter = some handler ∨ routed = path ∧ methods.handler filter = some handler := by
  obtain ⟨-, -, routes⟩ := route_eq_ok accepted
  rw [routes] at found
  split_ifs at found with same
  · subst same
    rcases Option.or_eq_some.mp found with old | ⟨-, new⟩
    · exact .inl old
    · exact .inr ⟨rfl, new⟩
  · exact .inl found

end Route

/-- A registration panics exactly when its path does not start with `/`, when its method router
routes a flag the path routes already, or when the path is new and matchit refuses it: the
template is malformed, or conflicts with one inserted before. -/
theorem route_isOk_iff (matchit : Matchit) (router : Router H) (path : String) (methods : MethodRouter H) :
    (∃ after, router.route matchit path methods = .ok after) ↔
      path.toList.head? = some '/' ∧
        (∀ filter, router.lookup path filter = none ∨ methods.handler filter = none) ∧
        (router.paths path = none →
          matchit.malformed path = false ∧ ∀ template ∈ router.templates, matchit.conflict template path = false) := by
  unfold route
  cases chars : path.toList with
  | nil => simp
  | cons first rest =>
      by_cases slash : first = '/'
      · subst slash
        cases atPath : router.paths path with
        | some previous =>
            simp only [lookup, atPath, Option.some_bind, List.head?_cons, ne_eq, not_true_eq_false, if_false,
              true_and, reduceCtorEq, false_implies, and_true]
            rw [← MethodRouter.merge_isOk_iff]
            cases previous.merge methods <;> simp [bind, Except.bind, pure, Except.pure]
        | none =>
            simp only [lookup, atPath, Option.none_bind, List.head?_cons, ne_eq, not_true_eq_false, if_false,
              true_and, true_or, implies_true, forall_const, Bool.or_eq_true, List.any_eq_true]
            split_ifs with refused
            · simp only [reduceCtorEq, exists_false, false_iff, not_and, not_forall]
              rcases refused with malformed | ⟨template, member, conflict⟩
              · simp [malformed]
              · exact fun _ => ⟨template, member, by simp [conflict]⟩
            · simp only [not_or, not_exists, not_and, Bool.not_eq_true] at refused
              exact ⟨fun _ => ⟨refused.1, refused.2⟩, fun _ => ⟨_, rfl⟩⟩
      · simp [slash]

theorem select_of_lookup {router : Router H} {path : String} {filter : MethodFilter} {handler : H}
    (routed : router.lookup path filter = some handler) :
    (router.paths path).bind (·.select filter.method) = some handler := by
  unfold lookup at routed
  cases atPath : router.paths path with
  | none => simp [atPath] at routed
  | some methods =>
      simp only [atPath, Option.some_bind] at routed ⊢
      exact MethodRouter.select_method routed

@[simp] theorem lookup_withFallback (router : Router H) (handler : H) :
    (router.withFallback handler).lookup = router.lookup := rfl

theorem foldlM_extends {α : Type} {step : Router H → α → Except Panic (Router H)}
    (Holds : α → Router H → Prop)
    (kept : ∀ item before after, Holds item before → Extends before after → Holds item after)
    (stepSpec : ∀ router item after, step router item = .ok after → Extends router after ∧ Holds item after) :
    ∀ (items : List α) (router after : Router H), items.foldlM step router = .ok after →
      Extends router after ∧ ∀ item ∈ items, Holds item after
  | [], router, after, accepted => by
      cases accepted
      exact ⟨.refl _, by simp⟩
  | item :: rest, router, after, accepted => by
      rw [List.foldlM_cons] at accepted
      obtain ⟨middle, first, remaining⟩ := except_bind_eq_ok accepted
      obtain ⟨extendsFirst, holdsFirst⟩ := stepSpec router item middle first
      obtain ⟨extendsRest, holdsRest⟩ := foldlM_extends Holds kept stepSpec rest middle after remaining
      refine ⟨extendsFirst.trans extendsRest, fun routed member => ?_⟩
      rcases List.mem_cons.mp member with rfl | later
      · exact kept _ _ _ holdsFirst extendsRest
      · exact holdsRest routed later

theorem foldlM_only {α : Type} {step : Router H → α → Except Panic (Router H)}
    (New : α → String → MethodFilter → H → Prop)
    (stepOnly : ∀ router item after, step router item = .ok after →
      ∀ path filter handler, after.lookup path filter = some handler →
        router.lookup path filter = some handler ∨ New item path filter handler) :
    ∀ (items : List α) (router after : Router H), items.foldlM step router = .ok after →
      ∀ path filter handler, after.lookup path filter = some handler →
        router.lookup path filter = some handler ∨ ∃ item ∈ items, New item path filter handler
  | [], router, after, accepted => by
      cases accepted
      exact fun _ _ _ found => .inl found
  | item :: rest, router, after, accepted => by
      rw [List.foldlM_cons] at accepted
      obtain ⟨middle, first, remaining⟩ := except_bind_eq_ok accepted
      intro path filter handler found
      rcases foldlM_only New stepOnly rest middle after remaining path filter handler found with
        old | ⟨later, member, new⟩
      · rcases stepOnly router item middle first path filter handler old with older | new
        · exact .inl older
        · exact .inr ⟨item, List.mem_cons_self _ _, new⟩
      · exact .inr ⟨later, List.mem_cons_of_mem _ member, new⟩

theorem route_onFilter_only {matchit : Matchit} {router after : Router H} {path : String} {filter : MethodFilter}
    {handler : H} (accepted : router.route matchit path (.onFilter filter handler) = .ok after)
    {routedPath : String} {routedFilter : MethodFilter} {routed : H}
    (found : after.lookup routedPath routedFilter = some routed) :
    router.lookup routedPath routedFilter = some routed ∨
      routedPath = path ∧ routedFilter = filter ∧ routed = handler := by
  rcases route_only accepted found with old | ⟨rfl, new⟩
  · exact .inl old
  · simp only [MethodRouter.onFilter_handler, Option.ite_none_right_eq_some, Option.some.injEq] at new
    exact .inr ⟨rfl, new.1, new.2.symm⟩

theorem foldlM_route_spec {matchit : Matchit} {filter : MethodFilter} {handler : H} {paths : List String}
    {router after : Router H}
    (accepted : paths.foldlM (fun router path => router.route matchit path (.onFilter filter handler)) router =
      .ok after) :
    Extends router after ∧ (∀ path ∈ paths, after.lookup path filter = some handler) ∧
      ∀ path routedFilter routed, after.lookup path routedFilter = some routed →
        router.lookup path routedFilter = some routed ∨
          path ∈ paths ∧ routedFilter = filter ∧ routed = handler := by
  obtain ⟨extended, added⟩ := foldlM_extends (fun path router => router.lookup path filter = some handler)
    (fun _ _ _ routed extended => extended.keeps _ _ _ routed)
    (fun _ _ _ routed => ⟨route_extends routed, route_adds routed (by simp)⟩) paths router after accepted
  refine ⟨extended, added, fun path routedFilter routed found => ?_⟩
  rcases foldlM_only (fun item path routedFilter routed => path = item ∧ routedFilter = filter ∧ routed = handler)
      (fun _ _ _ routes _ _ _ found => route_onFilter_only routes found) paths router after accepted
      path routedFilter routed found with old | ⟨_, member, rfl, rfl, rfl⟩
  · exact .inl old
  · exact .inr ⟨member, rfl, rfl⟩

end Router

/-- A Ruma endpoint's `METADATA` as `add_to_router` reads it: its method, and every path of its
history, `meta.history.all_paths()`. -/
structure Metadata where
  method : Method
  paths : List String

/-- `add_to_router`, which `ruma_route` calls: the handler on every path of the endpoint's
history, under the flag of its method. `method_to_filter` runs first, so an unsupported method
panics before any path is registered. -/
def addToRouter {H : Type} (matchit : Matchit) (metadata : Metadata) (handler : H) (router : Router H) :
    Except Panic (Router H) := do
  let filter ← methodToFilter metadata.method
  metadata.paths.foldlM (fun router path => router.route matchit path (.onFilter filter handler)) router

theorem addToRouter_eq_ok {H : Type} {matchit : Matchit} {metadata : Metadata} {handler : H}
    {router after : Router H} (accepted : addToRouter matchit metadata handler router = .ok after) :
    router.Extends after ∧
      (∃ filter : MethodFilter, filter.method = metadata.method ∧
        ∀ path ∈ metadata.paths, after.lookup path filter = some handler) ∧
      ∀ path filter routed, after.lookup path filter = some routed →
        router.lookup path filter = some routed ∨
          path ∈ metadata.paths ∧ filter.method = metadata.method ∧ routed = handler := by
  obtain ⟨filter, filterOk, folded⟩ := Router.except_bind_eq_ok accepted
  have method : filter.method = metadata.method := methodToFilter_eq_ok filterOk
  obtain ⟨extended, added, only⟩ := Router.foldlM_route_spec folded
  refine ⟨extended, ⟨filter, method, added⟩, fun path routedFilter routed found => ?_⟩
  rcases only path routedFilter routed found with old | ⟨member, rfl, rfl⟩
  · exact .inl old
  · exact .inr ⟨member, method, rfl⟩

/-- `ruma_route` serves every path of an endpoint's history with its one handler: a request
with the endpoint's method reaches it at each of them. It adds no other route, and keeps every
route and the fallback the table had. -/
theorem addToRouter_spec {H : Type} {matchit : Matchit} {metadata : Metadata} {handler : H}
    {router after : Router H} (accepted : addToRouter matchit metadata handler router = .ok after) :
    router.Extends after ∧
      (∀ path ∈ metadata.paths, (after.paths path).bind (·.select metadata.method) = some handler) ∧
      ∀ path filter routed, after.lookup path filter = some routed →
        router.lookup path filter = some routed ∨
          path ∈ metadata.paths ∧ filter.method = metadata.method ∧ routed = handler := by
  obtain ⟨extended, ⟨filter, method, added⟩, only⟩ := addToRouter_eq_ok accepted
  refine ⟨extended, fun path member => ?_, only⟩
  rw [← method]
  exact Router.select_of_lookup (added path member)

/-- `joined_rooms` has an `r0` and a `v3` path; a `GET` at the `r0` one reaches its handler. -/
theorem addToRouter_joined_rooms :
    ∃ after : Router Unit,
      addToRouter .renamedParams ⟨.get, ["/_matrix/client/r0/joined_rooms", "/_matrix/client/v3/joined_rooms"]⟩ ()
          .new = .ok after ∧
        (after.paths "/_matrix/client/r0/joined_rooms").bind (·.select .get) = some () :=
  ⟨_, rfl, (@addToRouter_spec Unit .renamedParams
    ⟨.get, ["/_matrix/client/r0/joined_rooms", "/_matrix/client/v3/joined_rooms"]⟩ () .new _ rfl).2.1 _
    (List.mem_cons_self _ _)⟩

end MatrixServer.Routing
