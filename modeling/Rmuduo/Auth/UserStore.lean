/-
The users (`auth/UserStore.h`, `auth/UserStore.cc`).

`std::hash` of a string is a parameter. The mutex makes each call one step.

* `indexed_addUsers` — the two maps agree after any calls of `addUser`.
* `addUser_accepts_iff` — what `addUser` accepts.
* `indexes_agree` — what the two searches find, and that nothing changes it.
-/

import Rmuduo.Lib.SecondaryIndex
import Rmuduo.Lib.System
import Rmuduo.Lib.Text
import Rmuduo.Auth.AuthTypes

namespace Rmuduo.Auth

open Lib Lib.SecondaryIndex Lib.System

structure UserStore where
  usersByName : Bytes → Option User := fun _ => none
  userIdToName : Bytes → Option Bytes := fun _ => none
  named : ∀ name user, usersByName name = some user → user.username = name := by simp

namespace UserStore

def addUser (store : UserStore) (user : User) : UserStore × Bool :=
  if (store.usersByName user.username).isSome ∨ (store.userIdToName user.userId).isSome then
    (store, false)
  else
    ({ usersByName := Function.update store.usersByName user.username (some user)
       userIdToName := Function.update store.userIdToName user.userId (some user.username)
       named := by
        intro name user' h
        by_cases hname : name = user.username
        · subst hname
          rw [Function.update_self] at h
          cases h
          rfl
        · rw [Function.update_of_ne hname] at h
          exact store.named name user' h }, true)

def findByUsername (store : UserStore) (username : Bytes) : Option User :=
  store.usersByName username

def findByUserId (store : UserStore) (userId : Bytes) : Option User :=
  match store.userIdToName userId with
  | none => none
  | some name => store.usersByName name

end UserStore

/-- `makePasswordHash`, for this `std::hash`. -/
def makePasswordHash (hash : Bytes → UInt64) (password : Bytes) : Bytes :=
  decimal (hash password).toNat

/-- The users that `addDefaultUsers` adds. -/
def defaultUsers (hash : Bytes → UInt64) : List User :=
  [{ userId := ascii "teacher01"
     username := ascii "teacher01"
     passwordHash := makePasswordHash hash (ascii "123456")
     role := .kTeacher
     enabled := true },
   { userId := ascii "student01"
     username := ascii "student01"
     passwordHash := makePasswordHash hash (ascii "123456")
     role := .kStudent
     enabled := true },
   { userId := ascii "student02"
     username := ascii "student02"
     passwordHash := makePasswordHash hash (ascii "123456")
     role := .kStudent
     enabled := true }]

/-- `UserStore::UserStore`. -/
def UserStore.init (hash : Bytes → UInt64) : UserStore :=
  (defaultUsers hash).foldl (fun store user => (store.addUser user).1) {}

namespace UserStore

/-- A sequence of calls of `addUser`. -/
def addUsers (store : UserStore) (users : List User) : UserStore :=
  run (fun store user => (store.addUser user).1) store users

/-- The maps agree with each other. -/
def Agree (store : UserStore) : Prop :=
  Indexed User.username User.userId store.usersByName store.userIdToName

section Calls

variable {store : UserStore} {user : User}

/-- A call that is rejected, and one that is not. -/
theorem addUser_cases (store : UserStore) (user : User) :
    (store.addUser user = (store, false) ∧
      ((store.usersByName user.username).isSome ∨ (store.userIdToName user.userId).isSome)) ∨
    ((store.addUser user).2 = true ∧
      store.usersByName user.username = none ∧ store.userIdToName user.userId = none ∧
      (store.addUser user).1.usersByName =
        Function.update store.usersByName user.username (some user) ∧
      (store.addUser user).1.userIdToName =
        Function.update store.userIdToName user.userId (some user.username)) := by
  unfold addUser
  split
  · rename_i htaken
    exact .inl ⟨rfl, htaken⟩
  · rename_i hfree
    simp only [not_or, Option.not_isSome_iff_eq_none] at hfree
    exact .inr ⟨rfl, hfree.1, hfree.2, rfl, rfl⟩

theorem Agree.addUser (h : store.Agree) (user : User) : (store.addUser user).1.Agree := by
  rcases addUser_cases store user with ⟨heq, -⟩ | ⟨-, hname, hid, hnames, hids⟩
  · rw [heq]
    exact h
  · unfold Agree
    rw [hnames, hids]
    exact h.put hname hid

theorem agree_addUsers (h : store.Agree) (users : List User) : (store.addUsers users).Agree :=
  run_invariant_always (fun _ user hstore => hstore.addUser user) users h

theorem agree_init (hash : Bytes → UInt64) : (UserStore.init hash).Agree :=
  have hempty : Agree {} := indexed_empty ..
  agree_addUsers hempty (defaultUsers hash)

theorem findByUserId_eq_find (store : UserStore) (userId : Bytes) :
    store.findByUserId userId = find store.usersByName store.userIdToName userId := by
  unfold findByUserId find
  cases store.userIdToName userId <;> rfl

theorem findByUserId_eq_some (h : store.Agree) {userId : Bytes} :
    store.findByUserId userId = some user ↔
      user.userId = userId ∧ store.findByUsername user.username = some user := by
  rw [findByUserId_eq_find]
  exact h.find_eq_some

/-- A user is accepted when no user has the name, and none the id. -/
theorem addUser_accepts_iff (h : store.Agree) :
    (store.addUser user).2 = true ↔
      store.findByUsername user.username = none ∧ store.findByUserId user.userId = none := by
  rw [findByUserId_eq_find, ← h.keys_eq_none]
  rcases addUser_cases store user with ⟨heq, htaken⟩ | ⟨htrue, hname, hid, -⟩
  · rw [heq]
    constructor
    · nofun
    · rintro ⟨hname, hid⟩
      simp only [findByUsername] at hname
      simp [hname, hid] at htaken
  · exact ⟨fun _ => ⟨hname, hid⟩, fun _ => htrue⟩

/-- A user that is found stays as it is when another one is added. -/
theorem findByUsername_addUser (h : store.findByUsername user.username = some user)
    (user' : User) : (store.addUser user').1.findByUsername user.username = some user := by
  rcases addUser_cases store user' with ⟨heq, -⟩ | ⟨-, hname, -, hnames, -⟩
  · rw [heq]
    exact h
  · have hne : user.username ≠ user'.username := by
      intro heq
      simp [findByUsername, heq, hname] at h
    rw [findByUsername, hnames, Function.update_of_ne hne]
    exact h

theorem findByUsername_addUsers (h : store.findByUsername user.username = some user)
    (later : List User) : (store.addUsers later).findByUsername user.username = some user :=
  run_invariant_always (I := fun s : UserStore => s.findByUsername user.username = some user)
    (fun _ user' hfound => findByUsername_addUser hfound user') later h

theorem findByUsername_of_accepted (h : (store.addUser user).2 = true) :
    (store.addUser user).1.findByUsername user.username = some user := by
  rcases addUser_cases store user with ⟨heq, -⟩ | ⟨-, -, -, hnames, -⟩
  · rw [heq] at h
    cases h
  · simp [findByUsername, hnames]

end Calls

/-- **The two indexes agree** after any calls of `addUser`: a search by id finds the user that has
the id and that the search by name finds; ids and names are unique; what has been added is found
unchanged after any later calls; and a call that is rejected changes neither map. -/
theorem indexes_agree (hash : Bytes → UInt64) (users : List User) :
    let store := (UserStore.init hash).addUsers users
    (∀ userId user, store.findByUserId userId = some user ↔
      user.userId = userId ∧ store.findByUsername user.username = some user) ∧
    (∀ username user, store.findByUsername username = some user → user.username = username) ∧
    (∀ name name' user user', store.findByUsername name = some user →
      store.findByUsername name' = some user' →
      user.userId = user'.userId ∨ user.username = user'.username → user = user') ∧
    (∀ user later, store.findByUsername user.username = some user ∨
        (store.addUser user).2 = true →
      ((store.addUser user).1.addUsers later).findByUsername user.username = some user ∧
        ((store.addUser user).1.addUsers later).findByUserId user.userId = some user) ∧
    (∀ user, (store.addUser user).2 = false → (store.addUser user).1 = store) := by
  intro store
  have hagree : store.Agree := agree_addUsers (agree_init hash) users
  refine ⟨fun _ _ => findByUserId_eq_some hagree, store.named, ?_, ?_, ?_⟩
  · intro name name' user user' hfound hfound' hsame
    obtain rfl := store.named name user hfound
    obtain rfl := store.named name' user' hfound'
    rcases hsame with hid | hname
    · exact hagree.eq_of_id hfound hfound' hid
    · rw [hname, hfound'] at hfound
      exact (Option.some.inj hfound).symm
  · intro user later hadded
    have hfound : (store.addUser user).1.findByUsername user.username = some user := by
      rcases hadded with hbefore | haccepted
      · exact findByUsername_addUser hbefore user
      · exact findByUsername_of_accepted haccepted
    have hlater := findByUsername_addUsers hfound later
    have hagree' := agree_addUsers (hagree.addUser user) later
    exact ⟨hlater, (findByUserId_eq_some hagree').mpr ⟨rfl, hlater⟩⟩
  · intro user hrejected
    rcases addUser_cases store user with ⟨heq, -⟩ | ⟨htrue, -⟩
    · rw [heq]
    · rw [htrue] at hrejected
      cases hrejected

end UserStore

end Rmuduo.Auth
