import MatrixServer.Routing.Routes

/-!
# Serving a request

The table answers a request in one of four ways: the handler of the route whose path matches
and whose method router routes the request's method; axum's `405 Method Not Allowed` when a
path matches but its method router does not route the method; a `308 Permanent Redirect` when
no path matches but one would with a `/` added at the end of the request's path, or with the
one at its end removed; or the fallback, `not_found`, when no path matches. `Router::layer`
wraps each route and the fallback, the `405` included, in the middleware stack of `run_server`,
but `Router::call` answers the redirect itself, outside it. In the stack `unrecognized_method`
turns a `405` into Ruma's `M_UNRECOGNIZED` error, and the CORS layer inside it answers every
`OPTIONS` request as a preflight, before any route. Compression, the `TraceLayer` and the
sensitive `Authorization` header change neither status nor body.
-/

set_option autoImplicit false

namespace MatrixServer.Routing

/-- What the model reads of a request: its method and its URI path. -/
structure Request where
  method : Method
  path : String
  deriving DecidableEq, Repr

/-- The kinds of Ruma's `ErrorKind` that this crate names. -/
inductive ErrorKind
  | unrecognized
  | guestAccessForbidden
  deriving DecidableEq, Repr

/-- The `CorsLayer` of `run_server`, which allows any origin: the methods and headers it allows,
and the max age of a preflight. -/
structure CorsPolicy where
  allowMethods : List Method
  allowHeaders : List String
  maxAgeSecs : Nat
  deriving DecidableEq, Repr

/-- The policy `run_server` configures. -/
def corsPolicy : CorsPolicy where
  allowMethods := [.get, .post, .put, .delete, .options]
  allowHeaders := ["origin", "x-requested-with", "content-type", "accept", "authorization"]
  maxAgeSecs := 86400

/-- A response body, as far as this crate shapes it: none, as axum's own `405` and `404` have;
Ruma's standard error body `ErrorBody::Standard { kind, message }`; none under a `Location`
header, as a redirect has; a CORS preflight answer, which announces the policy in its headers;
or any body an endpoint's business logic answers with. -/
inductive Body
  | empty
  | matrixError (kind : ErrorKind) (message : String)
  | redirect (location : String)
  | preflight (policy : CorsPolicy)
  | other
  deriving DecidableEq, Repr

structure Response where
  status : Nat
  body : Body
  deriving DecidableEq, Repr

def StatusCode.ok : Nat := 200

def StatusCode.permanentRedirect : Nat := 308

def StatusCode.notFound : Nat := 404

def StatusCode.methodNotAllowed : Nat := 405

/-- `Redirect::permanent(uri)`. -/
def permanentRedirect (location : String) : Response := ⟨StatusCode.permanentRedirect, .redirect location⟩

/-- `not_found`: `Error::BadRequest(ErrorKind::Unrecognized, "Unrecognized request")`, as the
`conduit` library renders its errors, `badRequest`. -/
def notFound (badRequest : ErrorKind → String → Response) : Response :=
  badRequest .unrecognized "Unrecognized request"

/-- `initial_sync`, which answers the same whatever the request. -/
def initialSync (badRequest : ErrorKind → String → Response) : Response :=
  badRequest .guestAccessForbidden "Guest access not implemented"

/-- The error `unrecognized_method` answers a `405` with. -/
def unrecognizedMethodError : Response :=
  ⟨StatusCode.methodNotAllowed, .matrixError .unrecognized "M_UNRECOGNIZED: Unrecognized request"⟩

/-- `unrecognized_method`: a `405` from the inner service becomes Ruma's `M_UNRECOGNIZED` error,
still with status `405`; any other response passes unchanged. -/
def unrecognizedMethod (inner : Response) : Response :=
  if inner.status = StatusCode.methodNotAllowed then unrecognizedMethodError else inner

/-- The CORS layer: an `OPTIONS` request is a preflight, answered with `200` and the policy;
any other goes on to the inner service. -/
def cors (inner : Request → Response) (request : Request) : Response :=
  if request.method = .options then ⟨StatusCode.ok, .preflight corsPolicy⟩ else inner request

/-- What matchit's `Node::at` answers for a request path among the templates of the table: the
template that matches it, or why none does: `MissingTrailingSlash` when one would match the
path with a `/` added at its end, `ExtraTrailingSlash` when one would match it with the `/` at
its end removed, and `NotFound`. -/
inductive PathMatch
  | found (template : String)
  | missingTrailingSlash
  | extraTrailingSlash
  | notFound
  deriving DecidableEq, Repr

/-- matchit's lookup of a request path among the templates of the table: a template it finds is
one of them, and it recommends removing a trailing slash only from a path that ends with one, as
`Router::call`'s `strip_suffix('/').unwrap()` relies on. -/
structure PathMatcher where
  find : (String → Bool) → String → PathMatch
  find_registered : ∀ registered path template, find registered path = .found template → registered template = true
  find_extra : ∀ registered path, find registered path = .extraTrailingSlash → path.toList.getLast? = some '/'

/-- The service of the table that serves a request. -/
inductive Service (H : Type)
  | route (template : String) (handler : H)
  | methodNotAllowed (template : String)
  | redirect (location : String)
  | fallback (handler : H)
  | noFallback

namespace Router

variable {H : Type}

/-- The path templates of the table. -/
def registered (router : Router H) (template : String) : Bool := (router.paths template).isSome

/-- The service for a request no route serves: the fallback, or axum's `404` without one. -/
def unmatched (router : Router H) : Service H :=
  match router.fallback with
  | some handler => .fallback handler
  | none => .noFallback

/-- `Router::call`: the route of the matched path for the request's method, axum's `405` when
that method router has none, the permanent redirect to the path with its trailing slash added
or removed, or the fallback when no path matches. -/
def dispatch (router : Router H) (matcher : PathMatcher) (request : Request) : Service H :=
  match matcher.find router.registered request.path with
  | .found template =>
      match router.paths template with
      | some methods =>
          match methods.select request.method with
          | some handler => .route template handler
          | none => .methodNotAllowed template
      | none => router.unmatched
  | .missingTrailingSlash => .redirect (request.path ++ "/")
  | .extraTrailingSlash => .redirect (String.mk request.path.toList.dropLast)
  | .notFound => router.unmatched

end Router

namespace Service

variable {H : Type}

/-- A service's answer before the middleware: its handler's, axum's bare `405` and `404`, or the
redirect. -/
def answer (respond : H → Request → Response) : Service H → Request → Response
  | .route _ handler => respond handler
  | .methodNotAllowed _ => fun _ => ⟨StatusCode.methodNotAllowed, .empty⟩
  | .redirect location => fun _ => permanentRedirect location
  | .fallback handler => respond handler
  | .noFallback => fun _ => ⟨StatusCode.notFound, .empty⟩

/-- The `path` field of the `http_request` span: the matched path template, or the URI path
when no route matched. -/
def spanPath (request : Request) : Service H → String
  | .route template _ => template
  | .methodNotAllowed template => template
  | _ => request.path

end Service

variable {Endpoint : Type}

/-- What a handler answers: `initial_sync` and `not_found` as `src/main.rs` writes them, every
other through the business logic `business`, which is outside this crate. -/
def respond (badRequest : ErrorKind → String → Response) (business : Handler Endpoint → Request → Response) :
    Handler Endpoint → Request → Response
  | .initialSync => fun _ => initialSync badRequest
  | .notFound => fun _ => notFound badRequest
  | handler => business handler

/-- `app`: the path of the `http_request` span a request is traced under, and the answer of its
service through the middleware stack. A redirect is answered outside the stack, untraced. -/
def app (badRequest : ErrorKind → String → Response) (business : Handler Endpoint → Request → Response)
    (matcher : PathMatcher) (router : Router (Handler Endpoint)) (request : Request) : Option String × Response :=
  match router.dispatch matcher request with
  | .redirect location => (none, permanentRedirect location)
  | service => (some (service.spanPath request),
      unrecognizedMethod (cors (service.answer (respond badRequest business)) request))

/-- A matcher for literal templates: a path matches the template equal to it, and a slash at its
end added or removed is recommended when that would match. -/
def PathMatcher.exact : PathMatcher where
  find registered path :=
    if registered path then .found path
    else if registered (path ++ "/") then .missingTrailingSlash
    else if path.toList.getLast? = some '/' ∧ registered (String.mk path.toList.dropLast) then .extraTrailingSlash
    else .notFound
  find_registered registered path template found := by
    dsimp only at found
    split_ifs at found with present
    cases found
    exact present
  find_extra registered path found := by
    dsimp only at found
    split_ifs at found with present missing extra
    cases found
    exact extra.1

theorem unrecognizedMethod_of_ne {inner : Response} (passes : inner.status ≠ StatusCode.methodNotAllowed) :
    unrecognizedMethod inner = inner := if_neg passes

theorem cors_of_ne {inner : Request → Response} {request : Request} (notOptions : request.method ≠ .options) :
    cors inner request = inner request := if_neg notOptions

theorem Router.paths_of_find {H : Type} {router : Router H} {matcher : PathMatcher} {path template : String}
    (found : matcher.find router.registered path = .found template) : ∃ methods, router.paths template = some methods :=
  Option.isSome_iff_exists.mp (matcher.find_registered _ _ _ found)

theorem app_of_dispatch {badRequest : ErrorKind → String → Response}
    {business : Handler Endpoint → Request → Response} {matcher : PathMatcher} {router : Router (Handler Endpoint)}
    {request : Request} {service : Service (Handler Endpoint)} (dispatched : router.dispatch matcher request = service)
    (layered : ∀ location, service ≠ .redirect location) :
    app badRequest business matcher router request =
      (some (service.spanPath request), unrecognizedMethod (cors (service.answer (respond badRequest business)) request)) := by
  unfold app
  rw [dispatched]
  cases service <;> first | rfl | exact absurd rfl (layered _)

theorem app_of_lookup {badRequest : ErrorKind → String → Response} {business : Handler Endpoint → Request → Response}
    {matcher : PathMatcher} {router : Router (Handler Endpoint)} {request : Request} {template : String}
    {filter : MethodFilter} {handler : Handler Endpoint}
    (found : matcher.find router.registered request.path = .found template)
    (routed : router.lookup template filter = some handler) (method : filter.method = request.method)
    (notOptions : request.method ≠ .options) :
    app badRequest business matcher router request =
      (some template, unrecognizedMethod (respond badRequest business handler request)) := by
  obtain ⟨methods, atTemplate⟩ := Router.paths_of_find found
  have served := Router.select_of_lookup routed
  rw [atTemplate, Option.some_bind, method] at served
  have dispatched : router.dispatch matcher request = .route template handler := by
    simp only [Router.dispatch, found, atTemplate, served]
  rw [app_of_dispatch dispatched nofun]
  simp only [Service.spanPath, cors_of_ne notOptions, Service.answer]

theorem app_unrouted_method (badRequest : ErrorKind → String → Response)
    (business : Handler Endpoint → Request → Response) (matcher : PathMatcher)
    (router : Router (Handler Endpoint)) (request : Request) (template : String)
    (found : matcher.find router.registered request.path = .found template)
    (unrouted : (router.paths template).bind (·.select request.method) = none)
    (notOptions : request.method ≠ .options) :
    app badRequest business matcher router request = (some template, unrecognizedMethodError) := by
  obtain ⟨methods, atTemplate⟩ := Router.paths_of_find found
  rw [atTemplate, Option.some_bind] at unrouted
  have dispatched : router.dispatch matcher request = .methodNotAllowed template := by
    simp only [Router.dispatch, found, atTemplate, unrouted]
  rw [app_of_dispatch dispatched nofun]
  simp only [Service.spanPath, cors_of_ne notOptions, Service.answer, unrecognizedMethod, if_true]

section Routes

variable {matchit : Matchit} {metadata : Endpoint → Metadata} {clientServer afterState serverServer : List Endpoint}
  {router : Router (Handler Endpoint)}

/-- A request whose path matches no route of the table `routes` builds, nor would with its
trailing slash added or removed, is answered by `not_found` through the middleware and traced
under its URI path, provided the library does not give the error status `405`. `OPTIONS` is
the exception, which the CORS layer answers. -/
theorem app_unmatched_path_unrecognized (built : routes matchit metadata clientServer afterState serverServer = .ok router)
    (badRequest : ErrorKind → String → Response) (business : Handler Endpoint → Request → Response)
    (matcher : PathMatcher) (request : Request)
    (unmatched : matcher.find router.registered request.path = .notFound) (notOptions : request.method ≠ .options)
    (unrecognized : (notFound badRequest).status ≠ StatusCode.methodNotAllowed) :
    app badRequest business matcher router request = (some request.path, notFound badRequest) := by
  have fallback : router.dispatch matcher request = .fallback .notFound := by
    simp only [Router.dispatch, unmatched, Router.unmatched, (routes_eq_ok built).1]
  rw [app_of_dispatch fallback nofun]
  simp only [Service.spanPath, cors_of_ne notOptions, Service.answer, respond, unrecognizedMethod_of_ne unrecognized]

/-- A path the table does not have is answered by `not_found` under its own path. -/
theorem app_unknown_path_unrecognized : ∃ router : Router (Handler Unit),
    routes .renamedParams (fun _ => ⟨.get, ["/_matrix/client/v3/joined_rooms"]⟩) [()] [] [] = .ok router ∧
      app (fun kind message => ⟨StatusCode.notFound, .matrixError kind message⟩) (fun _ _ => ⟨StatusCode.ok, .other⟩)
          .exact router ⟨.get, "/_matrix/client/v3/nowhere"⟩ =
        (some "/_matrix/client/v3/nowhere", notFound fun kind message => ⟨StatusCode.notFound, .matrixError kind message⟩) :=
  ⟨_, rfl, @app_unmatched_path_unrecognized Unit .renamedParams (fun _ => ⟨.get, ["/_matrix/client/v3/joined_rooms"]⟩)
    [()] [] [] _ rfl _ _ _ _ rfl (by decide) (by decide)⟩

/-- A request whose path matches a template of the table `routes` builds, but for whose method
`routes` registered nothing there (nor `GET`, for a `HEAD`), is answered with Ruma's
`M_UNRECOGNIZED` error and status `405`, traced under the template. `OPTIONS` is the exception,
which the CORS layer answers. -/
theorem app_unregistered_method (built : routes matchit metadata clientServer afterState serverServer = .ok router)
    (badRequest : ErrorKind → String → Response) (business : Handler Endpoint → Request → Response)
    (matcher : PathMatcher) (request : Request) (template : String)
    (found : matcher.find router.registered request.path = .found template)
    (unregistered : ∀ filter handler, (filter.method = request.method ∨ request.method = .head ∧ filter = .get) →
      ¬ Registered metadata clientServer afterState serverServer template filter handler)
    (notOptions : request.method ≠ .options) :
    app badRequest business matcher router request = (some template, unrecognizedMethodError) := by
  obtain ⟨methods, atTemplate⟩ := Router.paths_of_find found
  refine app_unrouted_method badRequest business matcher router request template found ?_ notOptions
  rw [atTemplate, Option.some_bind]
  cases selected : methods.select request.method with
  | none => rfl
  | some handler =>
      obtain ⟨filter, routed, admits⟩ := MethodRouter.select_eq_some selected
      exact absurd ((routes_lookup_iff built template filter handler).mp (by simp [Router.lookup, atTemplate, routed]))
        (unregistered filter handler admits)

/-- A `POST` to a `GET`-only endpoint is answered with `M_UNRECOGNIZED` under the endpoint's path. -/
theorem app_post_joined_rooms_unregistered : ∃ router : Router (Handler Unit),
    routes .renamedParams (fun _ => ⟨.get, ["/_matrix/client/v3/joined_rooms"]⟩) [()] [] [] = .ok router ∧
      app (fun kind message => ⟨StatusCode.notFound, .matrixError kind message⟩) (fun _ _ => ⟨StatusCode.ok, .other⟩)
          .exact router ⟨.post, "/_matrix/client/v3/joined_rooms"⟩ =
        (some "/_matrix/client/v3/joined_rooms", unrecognizedMethodError) :=
  ⟨_, rfl, @app_unregistered_method Unit .renamedParams (fun _ => ⟨.get, ["/_matrix/client/v3/joined_rooms"]⟩)
    [()] [] [] _ rfl _ _ _ _ _ rfl (fun filter handler admits registered => by
      cases handler <;> simp [Registered, emptyKeyStatePaths] at registered
      simp [registered] at admits) (by decide)⟩

/-- `initial_sync` answers every `GET` that matches either of its paths with Ruma's
`GuestAccessForbidden` error, "Guest access not implemented", whatever else the request holds;
provided the library does not give that error the status `405`. -/
theorem app_initialSync_forbidden (built : routes matchit metadata clientServer afterState serverServer = .ok router)
    (badRequest : ErrorKind → String → Response) (business : Handler Endpoint → Request → Response)
    (matcher : PathMatcher) (request : Request) (template : String)
    (sync : template = "/_matrix/client/r0/rooms/:room_id/initialSync" ∨
      template = "/_matrix/client/v3/rooms/:room_id/initialSync")
    (found : matcher.find router.registered request.path = .found template) (get : request.method = .get)
    (forbidden : (initialSync badRequest).status ≠ StatusCode.methodNotAllowed) :
    app badRequest business matcher router request = (some template, initialSync badRequest) := by
  obtain ⟨-, -, -, -, -, r0Sync, v3Sync⟩ := routes_eq_ok built
  have routed : router.lookup template .get = some .initialSync := by
    rcases sync with rfl | rfl <;> assumption
  rw [app_of_lookup found routed get.symm (by simp [get])]
  exact congrArg _ (unrecognizedMethod_of_ne forbidden)

/-- A `GET` of the `v3` `initialSync` path is forbidden; the library gives the error `403`. -/
theorem app_v3_initialSync_forbidden : ∃ router : Router (Handler Unit),
    routes .renamedParams (fun _ => ⟨.get, ["/_matrix/client/v3/joined_rooms"]⟩) [()] [] [] = .ok router ∧
      app (fun kind message => ⟨403, .matrixError kind message⟩) (fun _ _ => ⟨StatusCode.ok, .other⟩) .exact router
          ⟨.get, "/_matrix/client/v3/rooms/:room_id/initialSync"⟩ =
        (some "/_matrix/client/v3/rooms/:room_id/initialSync",
          initialSync fun kind message => ⟨403, .matrixError kind message⟩) :=
  ⟨_, rfl, @app_initialSync_forbidden Unit .renamedParams (fun _ => ⟨.get, ["/_matrix/client/v3/joined_rooms"]⟩)
    [()] [] [] _ rfl _ _ _ _ _ (.inr rfl) rfl rfl (by decide)⟩

/-- Every path of a Ruma endpoint's history serves it: a request that matches any of them with
the endpoint's method is answered by that endpoint's business logic, traced under the matched
path. `OPTIONS` is the exception, which the CORS layer answers. -/
theorem app_ruma_endpoint_every_path (built : routes matchit metadata clientServer afterState serverServer = .ok router)
    (badRequest : ErrorKind → String → Response) (business : Handler Endpoint → Request → Response)
    (matcher : PathMatcher) (request : Request) (endpoint : Endpoint)
    (registered : endpoint ∈ clientServer ++ afterState ++ serverServer) (path : String)
    (historic : path ∈ (metadata endpoint).paths) (found : matcher.find router.registered request.path = .found path)
    (method : request.method = (metadata endpoint).method) (notOptions : request.method ≠ .options) :
    app badRequest business matcher router request =
      (some path, unrecognizedMethod (business (.ruma endpoint) request)) := by
  obtain ⟨filter, sameMethod, serves⟩ := (routes_eq_ok built).2.1 endpoint registered
  exact app_of_lookup found (serves path historic) (sameMethod.trans method.symm) notOptions

/-- `joined_rooms` has an `r0` and a `v3` path; a `GET` of the `r0` one reaches the endpoint. -/
theorem app_r0_joined_rooms : ∃ router : Router (Handler Unit),
    routes .renamedParams (fun _ => ⟨.get, ["/_matrix/client/r0/joined_rooms", "/_matrix/client/v3/joined_rooms"]⟩)
        [()] [] [] = .ok router ∧
      app (fun kind message => ⟨StatusCode.notFound, .matrixError kind message⟩) (fun _ _ => ⟨StatusCode.ok, .other⟩)
          .exact router ⟨.get, "/_matrix/client/r0/joined_rooms"⟩ =
        (some "/_matrix/client/r0/joined_rooms", unrecognizedMethod ⟨StatusCode.ok, .other⟩) :=
  ⟨_, rfl, @app_ruma_endpoint_every_path Unit .renamedParams
    (fun _ => ⟨.get, ["/_matrix/client/r0/joined_rooms", "/_matrix/client/v3/joined_rooms"]⟩) [()] [] [] _ rfl
    _ _ _ _ () (List.mem_cons_self _ _) _ (List.mem_cons_self _ _) rfl rfl (by decide)⟩

end Routes

end MatrixServer.Routing
