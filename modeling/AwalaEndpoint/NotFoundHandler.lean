import AwalaEndpoint.Http

namespace AwalaEndpoint

/-!
# Requests without a route

The handler of requests that no route takes answers with the methods that the
path supports.  It looks the URL of the request up among the registered paths;
here its reply is compared with what the path alone calls for.
-/

/-- A path without parameters. -/
structure StaticPath where
  text : String
  noQuestionMark : '?' ∉ text.toList
  deriving DecidableEq

/-- The `method` of a registration: one method or a list of methods. -/
inductive RouteMethod where
  | one (method : String)
  | many (methods : List String)
  deriving Repr, DecidableEq

/-- The methods of a registration, as `flat` lists them. -/
def RouteMethod.flat : RouteMethod → List String
  | .one method => [method]
  | .many methods => methods

/-- A registered route. -/
structure Route where
  url : StaticPath
  method : RouteMethod
  deriving DecidableEq

/-- `fastify.routes.get(url)`: the routes registered at a path, if there are any. -/
def routesGet (routes : List Route) (url : String) : Option (List Route) :=
  match routes.filter (·.url.text = url) with
  | [] => none
  | found => some found

/-- A request: its method, path and query string. -/
structure Request where
  method : String
  path : StaticPath
  query : Option String
  deriving DecidableEq

/-- `request.url`: the path followed by the query string. -/
def Request.url (request : Request) : String :=
  match request.query with
  | none => request.path.text
  | some query => request.path.text ++ "?" ++ query

/-- The status code and the `Allow` header of a reply. -/
structure NotFoundReply where
  code : Nat
  allow : Option String
  deriving Repr, DecidableEq

/-- `fastify.routes.get(url)?.map((route) => route.method).flat() ?? []`. -/
def allowedMethods (routes : List Route) (url : String) : List String :=
  match routesGet routes url with
  | none => []
  | some found => found.flatMap fun route => route.method.flat

/-- The handler of requests that no route takes. -/
def notFoundHandler (routes : List Route) (request : Request) : NotFoundReply :=
  let allowedMethods := allowedMethods routes request.url
  if allowedMethods.length = 0 then
    ⟨HttpStatusCodes.notFound, none⟩
  else
    let allowedMethodsString := ", ".intercalate allowedMethods
    let statusCode :=
      if request.method = "OPTIONS" then
        HttpStatusCodes.noContent
      else
        HttpStatusCodes.methodNotAllowed
    ⟨statusCode, some allowedMethodsString⟩

/-- Some route is registered at the path. -/
def IsRegistered (routes : List Route) (path : StaticPath) : Prop :=
  ∃ route ∈ routes, route.url = path

/-- Some registration of the path has the method. -/
def Supports (routes : List Route) (path : StaticPath) (method : String) : Prop :=
  ∃ route ∈ routes, route.url = path ∧ method ∈ route.method.flat

/-- The reply is the one that the path of the request calls for. -/
structure AnswersByPath (routes : List Route) (request : Request) : Prop where
  notFound_iff :
    ((notFoundHandler routes request).code = HttpStatusCodes.notFound ∧
        (notFoundHandler routes request).allow = none) ↔
      ¬ IsRegistered routes request.path
  code :
    IsRegistered routes request.path →
    (notFoundHandler routes request).code =
      if request.method = "OPTIONS" then
        HttpStatusCodes.noContent
      else
        HttpStatusCodes.methodNotAllowed
  allow :
    IsRegistered routes request.path →
    ∃ listed,
      (notFoundHandler routes request).allow =
          some (", ".intercalate listed) ∧
        ∀ method, method ∈ listed ↔ Supports routes request.path method

/--
A registered path is asked for without a query string, and one of its
registrations has a method.
-/
def IsFound (routes : List Route) (request : Request) : Prop :=
  IsRegistered routes request.path →
  request.query = none ∧ ∃ method, Supports routes request.path method

section Handler

variable {routes : List Route}
  {request : Request}

/-- A URL with a query string is no registered path. -/
theorem allowedMethods_of_query
    {query : String}
    (hasQuery : request.query = some query) :
    allowedMethods routes request.url = [] := by
  have notRegistered : routes.filter (·.url.text = request.url) = [] := by
    rw [List.filter_eq_nil_iff]
    intro route _ sameText
    have questionMark : '?' ∈ route.url.text.toList := by
      rw [of_decide_eq_true sameText]
      simp [Request.url, hasQuery]
    exact route.url.noQuestionMark questionMark
  rw [allowedMethods, routesGet, notRegistered]

/-- Without a query string the methods are those of the registrations of the path. -/
theorem mem_allowedMethods_iff
    (noQuery : request.query = none)
    {method : String} :
    method ∈ allowedMethods routes request.url ↔
      Supports routes request.path method := by
  have sameMethods :
      allowedMethods routes request.url =
        (routes.filter (·.url.text = request.path.text)).flatMap
          fun route => route.method.flat := by
    simp only [allowedMethods, routesGet, Request.url, noQuery]
    cases routes.filter (·.url.text = request.path.text) <;> rfl
  have samePath (route : Route) :
      route.url.text = request.path.text ↔ route.url = request.path := by
    cases route.url
    cases request.path
    simp
  simp [sameMethods, samePath, Supports, and_assoc]

/-- The reply when the lookup finds no method. -/
theorem notFoundHandler_of_nil
    (nothing : allowedMethods routes request.url = []) :
    notFoundHandler routes request = ⟨HttpStatusCodes.notFound, none⟩ := by
  simp [notFoundHandler, nothing]

/-- The reply when the lookup finds methods. -/
theorem notFoundHandler_of_ne_nil
    (something : allowedMethods routes request.url ≠ []) :
    notFoundHandler routes request =
      ⟨if request.method = "OPTIONS" then
          HttpStatusCodes.noContent
        else
          HttpStatusCodes.methodNotAllowed,
        some (", ".intercalate (allowedMethods routes request.url))⟩ := by
  simp [notFoundHandler, something]

/-- Whoever supports a method is registered. -/
theorem Supports.isRegistered
    {path : StaticPath}
    {method : String}
    (supports : Supports routes path method) :
    IsRegistered routes path := by
  obtain ⟨route, member, samePath, -⟩ := supports
  exact ⟨route, member, samePath⟩

/-- The methods found are those of a request that is found. -/
theorem allowedMethods_ne_nil_iff :
    allowedMethods routes request.url ≠ [] ↔
      request.query = none ∧ ∃ method, Supports routes request.path method := by
  cases hasQuery : request.query with
  | some query =>
      simp [allowedMethods_of_query hasQuery]
  | none =>
      simp [List.eq_nil_iff_forall_not_mem, mem_allowedMethods_iff hasQuery]

/--
The handler answers by path exactly when the path is not registered, or is asked
for without a query string and has a method.
-/
theorem answersByPath_iff :
    AnswersByPath routes request ↔ IsFound routes request := by
  by_cases nothing : allowedMethods routes request.url = []
  · have reply := notFoundHandler_of_nil nothing
    constructor
    · intro answers registered
      have notRegistered := answers.notFound_iff.mp (by simp [reply])
      exact absurd registered notRegistered
    · intro found
      have notRegistered : ¬ IsRegistered routes request.path := by
        intro registered
        exact allowedMethods_ne_nil_iff.mpr (found registered) nothing
      refine ⟨?_, ?_, ?_⟩
      · simp [reply, notRegistered]
      · intro registered
        exact absurd registered notRegistered
      · intro registered
        exact absurd registered notRegistered
  · have reply := notFoundHandler_of_ne_nil nothing
    obtain ⟨noQuery, method, supports⟩ := allowedMethods_ne_nil_iff.mp nothing
    refine iff_of_true ⟨?_, ?_, ?_⟩ fun _ => ⟨noQuery, method, supports⟩
    · simp [reply, supports.isRegistered]
    · intro _
      rw [reply]
    · intro _
      exact ⟨_, by rw [reply], fun _ => mem_allowedMethods_iff noQuery⟩

end Handler

namespace Stubs

/-- The root path. -/
def root : StaticPath := ⟨"/", by decide⟩

/-- The routes of the server at the root: the health check and parcel delivery. -/
def rootRoutes : List Route :=
  [⟨root, .many ["HEAD", "GET"]⟩, ⟨root, .many ["POST"]⟩]

example :
    notFoundHandler rootRoutes ⟨"PUT", root, none⟩ =
      ⟨HttpStatusCodes.methodNotAllowed, some "HEAD, GET, POST"⟩ := by
  decide +kernel

end Stubs

/-- A query string makes the handler deny the registered path it is asked about. -/
theorem query_hides_path :
    notFoundHandler Stubs.rootRoutes ⟨"PUT", Stubs.root, some "parcel"⟩ =
        ⟨HttpStatusCodes.notFound, none⟩ ∧
      notFoundHandler Stubs.rootRoutes ⟨"OPTIONS", Stubs.root, some "parcel"⟩ =
        ⟨HttpStatusCodes.notFound, none⟩ ∧
      IsRegistered Stubs.rootRoutes Stubs.root ∧
      ¬ Supports Stubs.rootRoutes Stubs.root "PUT" ∧
      ¬ AnswersByPath Stubs.rootRoutes ⟨"PUT", Stubs.root, some "parcel"⟩ := by
  have registered : IsRegistered Stubs.rootRoutes Stubs.root :=
    ⟨_, List.mem_cons_self, rfl⟩
  have reply :
      notFoundHandler Stubs.rootRoutes ⟨"PUT", Stubs.root, some "parcel"⟩ =
        ⟨HttpStatusCodes.notFound, none⟩ := by
    decide +kernel
  refine ⟨reply, by decide +kernel, registered, ?_, ?_⟩
  · simp [Supports, Stubs.rootRoutes, RouteMethod.flat]
  · intro answers
    exact answers.notFound_iff.mp (by simp [reply]) registered

end AwalaEndpoint
