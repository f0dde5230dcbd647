/-
Routes (`api/Router.h`, `api/Router.cc`).

A handler of the source may change what its closure refers to. Here that is a state which the
handler takes and gives back. `none` is for a handler that does not return.

* `route_addRoutes` — a request goes to the handler that has been registered last for its method
  and its path.
* `route_unknown` — without one it is answered by status 404, and changes nothing.
* `route_cases` — so much about every answer.
-/

import Mathlib.Logic.Function.Basic
import Rmuduo.Api.JsonResponse
import Rmuduo.Http.HttpServer

namespace Rmuduo.Api

open Lib Http

/-- `Router::Handler`, on a state. -/
abbrev Handler (σ : Type) := σ → HttpRequest → HttpResponse → Option (σ × HttpResponse)

/-- `Router`: a handler for a method and a path. -/
structure Router (σ : Type) where
  routes : Method × Bytes → Option (Handler σ) := fun _ => none

namespace Router

variable {σ : Type}

def addRoute (router : Router σ) (method : Method) (path : Bytes) (handler : Handler σ) :
    Router σ :=
  { routes := Function.update router.routes (method, path) (some handler) }

def get (router : Router σ) (path : Bytes) (handler : Handler σ) : Router σ :=
  router.addRoute .kGet path handler

def post (router : Router σ) (path : Bytes) (handler : Handler σ) : Router σ :=
  router.addRoute .kPost path handler

/-- The answer to a request that has no handler. -/
def notFound (response : HttpResponse) : HttpResponse :=
  { response.setContentType (ascii "application/json") with
    statusCode := .k404NotFound
    statusMessage := ascii "Not Found"
    body := makeError 404 (ascii "not found") }

def route (router : Router σ) : Handler σ := fun state request response =>
  match router.routes (request.method, request.path) with
  | none => some (state, notFound response)
  | some handler => handler state request response

/-- A registration. -/
structure Route (σ : Type) where
  method : Method
  path : Bytes
  handler : Handler σ

def addRoutes (router : Router σ) (routes : List (Route σ)) : Router σ :=
  routes.foldl (fun router r => router.addRoute r.method r.path r.handler) router

/-- The last registration for a method and a path. -/
def lastRoute (routes : List (Route σ)) (method : Method) (path : Bytes) : Option (Route σ) :=
  (routes.filter fun r => r.method = method ∧ r.path = path).getLast?

theorem routes_addRoutes (routes : List (Route σ)) (method : Method) (path : Bytes) :
    (addRoutes {} routes).routes (method, path) = (lastRoute routes method path).map (·.handler) := by
  induction routes using List.reverseRecOn with
  | nil => rfl
  | append_singleton routes r ih =>
      have hlast : addRoutes {} (routes ++ [r]) =
          (addRoutes {} routes).addRoute r.method r.path r.handler := by
        simp only [addRoutes, List.foldl_append, List.foldl_cons, List.foldl_nil]
      rw [hlast, lastRoute, List.filter_append]
      by_cases hr : r.method = method ∧ r.path = path
      · obtain ⟨rfl, rfl⟩ := hr
        simp [addRoute]
      · have hne : (method, path) ≠ (r.method, r.path) := by
          intro heq
          cases heq
          exact hr ⟨rfl, rfl⟩
        have hsame : ((addRoutes {} routes).addRoute r.method r.path r.handler).routes
            (method, path) = (addRoutes {} routes).routes (method, path) :=
          Function.update_of_ne hne ..
        rw [hsame, ih]
        simp [lastRoute, hr]

/-- A request goes to the handler that has been registered last for it. -/
theorem route_addRoutes {routes : List (Route σ)} {r : Route σ} {request : HttpRequest}
    (h : lastRoute routes request.method request.path = some r) (state : σ)
    (response : HttpResponse) :
    (addRoutes {} routes).route state request response = r.handler state request response := by
  rw [route, routes_addRoutes, h]
  rfl

theorem route_unknown {routes : List (Route σ)} {request : HttpRequest}
    (h : lastRoute routes request.method request.path = none) (state : σ)
    (response : HttpResponse) :
    (addRoutes {} routes).route state request response = some (state, notFound response) := by
  rw [route, routes_addRoutes, h]
  rfl

/-- What answers a request: one of the handlers that are registered for it, or none. -/
theorem route_cases {routes : List (Route σ)} {request : HttpRequest} {state state' : σ}
    {response answer : HttpResponse}
    (h : (addRoutes {} routes).route state request response = some (state', answer)) :
    (state' = state ∧ answer = notFound response) ∨
      ∃ r ∈ routes, request.method = r.method ∧ request.path = r.path ∧
        r.handler state request response = some (state', answer) := by
  cases hlast : lastRoute routes request.method request.path with
  | none =>
      rw [route_unknown hlast] at h
      cases h
      exact .inl ⟨rfl, rfl⟩
  | some r =>
      rw [route_addRoutes hlast] at h
      obtain ⟨hmem, hmatch⟩ := List.mem_filter.mp (List.mem_of_getLast? hlast)
      obtain ⟨hmethod, hpath⟩ := of_decide_eq_true hmatch
      exact .inr ⟨r, hmem, hmethod.symm, hpath.symm, h⟩

end Router

end Rmuduo.Api
