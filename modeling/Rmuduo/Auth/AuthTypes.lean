/-
Users, sessions and tickets (`auth/AuthTypes.h`, `auth/AuthTypes.cc`).

* `roleFromString_roleToString` — the name of a role stands for it.
-/

import Rmuduo.Lib.Bytes

namespace Rmuduo.Auth

open Lib

inductive UserRole where
  | kUnknown | kTeacher | kStudent
deriving DecidableEq, Repr

inductive RtmpPermission where
  | kUnknown | kPublish | kPlay | kBoth
deriving DecidableEq, Repr

structure User where
  userId : Bytes := []
  username : Bytes := []
  passwordHash : Bytes := []
  role : UserRole := .kUnknown
  enabled : Bool := true
deriving DecidableEq, Repr

structure AuthSession where
  token : Bytes := []
  userId : Bytes := []
  username : Bytes := []
  role : UserRole := .kUnknown
  expireAt : Int := 0
deriving DecidableEq, Repr

inductive AuthError where
  | kOk | kBadRequest | kInvalidCredentials | kUnauthorized | kTokenExpired | kUserDisabled
  | kUnsupportedRole
deriving DecidableEq, Repr

structure AuthResult where
  error : AuthError := .kOk
  session : AuthSession := {}
deriving DecidableEq, Repr

structure RtmpTicket where
  ticket : Bytes := []
  userId : Bytes := []
  username : Bytes := []
  role : UserRole := .kUnknown
  streamKey : Bytes := []
  allowPublish : Bool := false
  allowPlay : Bool := false
  expireAt : Int := 0
deriving DecidableEq, Repr

/-! ### Names -/

def roleToString : UserRole → Bytes
  | .kTeacher => ascii "teacher"
  | .kStudent => ascii "student"
  | .kUnknown => ascii "unknown"

def roleFromString (role : Bytes) : UserRole :=
  if role = ascii "teacher" then .kTeacher
  else if role = ascii "student" then .kStudent
  else .kUnknown

theorem roleFromString_roleToString (role : UserRole) :
    roleFromString (roleToString role) = role := by
  cases role <;> decide +kernel

def authErrorMessage : AuthError → Bytes
  | .kOk => ascii "ok"
  | .kBadRequest => ascii "bad request"
  | .kInvalidCredentials => ascii "invalid username or password"
  | .kUnauthorized => ascii "unauthorized"
  | .kTokenExpired => ascii "token expired"
  | .kUserDisabled => ascii "user disabled"
  | .kUnsupportedRole => ascii "unsupported role"

end Rmuduo.Auth
