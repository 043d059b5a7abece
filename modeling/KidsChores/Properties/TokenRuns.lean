import KidsChores.Properties.NoDeadEnds
import KidsChores.Properties.RemovedMembers

/-!
# What a token says, later on

Tokens carry the member and the household they were issued for.  No request moves a member
to another household or changes the role the answer named, so a token says the same of
every later state.
-/

set_option autoImplicit false

namespace KidsChores.Properties

open KidsChores.Library
open KidsChores.Library.PyDatetime
open KidsChores.Library.Refinement
open KidsChores.Library.Runs
open KidsChores.Models
open KidsChores.Routers
open KidsChores.Routers.Auth
open KidsChores.Server
open KidsChores.Services.RateLimit

structure Names (db : Database) (response : TokenResponse) : Prop where
  access : response.accessToken = ⟨response.memberId, response.householdId⟩
  refresh : response.refreshToken = ⟨response.memberId⟩
  member : ∃ member ∈ db.members.rows, member.id = response.memberId ∧
    member.householdId = response.householdId ∧ member.role = response.role

section Requests

variable {db next : Database} {response : TokenResponse} {verifyPassword : String → String → Bool}

theorem names_issued {member : Member} (stored : member ∈ db.members.rows) :
    Names db (TokenResponse.issue member member.householdId) :=
  ⟨rfl, rfl, member, stored, rfl, rfl, rfl⟩

theorem Names.later (names : Names db response) (stay : MembersStay db next) :
    Names next response := by
  obtain ⟨member, stored, named, home, role⟩ := names.member
  obtain ⟨later, laterStored, sameId, sameHousehold, sameRole⟩ := stay member stored
  exact ⟨names.access, names.refresh, later, laterStored, sameId.trans named,
    sameHousehold.trans home, sameRole.trans role⟩

theorem foundFamily_names {displayName subject : String} {provider : AuthProvider}
    {passwordHash : Option String}
    (founded : foundFamily db displayName provider subject passwordHash =
      .ok (response, next)) : Names next response := by
  unfold foundFamily at founded
  split at founded
  · cases founded
  · cases founded
    exact ⟨rfl, rfl, _, List.mem_append_right _ (List.mem_singleton.mpr rfl), rfl, rfl, rfl⟩

theorem signInWithApple_names {request : AppleSignIn}
    (returned : signInWithApple request db = .ok (response, next)) : Names next response := by
  unfold signInWithApple at returned
  split at returned
  · cases returned
  · split at returned
    · exact foundFamily_names returned
    · rename_i member known
      split at returned
      · cases returned
      · rename_i household found
        cases returned
        rw [Table.key_of_find? found]
        exact names_issued (List.mem_of_find?_eq_some known)

theorem register_names {request : Register} {counters : Counters}
    (returned : (register request db counters).1 = .ok (response, next)) :
    Names next response := by
  simp only [register] at returned
  split at returned
  · cases returned
  · split at returned
    · cases returned
    · exact foundFamily_names returned

theorem linkAccount_names {request : LinkAccount} {redis : Redis}
    (returned : (linkAccount request db redis).1 = .ok (response, next)) :
    Names next response := by
  obtain ⟨_, memberId, _, converted⟩ := linkAccount_ok returned
  obtain ⟨member, found, _, _, _, _, rfl, rfl⟩ := linkMember_ok converted
  have stored := Table.mem_of_find? found
  exact (names_issued stored).later (.of_save stored rfl rfl rfl rfl)

theorem login_names {request : Login} {counters : Counters}
    (returned : (login verifyPassword request db counters).1 = .ok response) :
    Names db response := by
  simp only [login] at returned
  split at returned
  · cases returned
  · split at returned
    · cases returned
    · rename_i member known
      split at returned
      · cases returned
      · split at returned
        · cases returned
        · split at returned
          · cases returned
          · rename_i household found
            cases returned
            rw [Table.key_of_find? found]
            exact names_issued (List.mem_of_find?_eq_some known)

theorem refresh_names {request : Refresh} {used : Services.RefreshTokens.UsedKeys ℚ}
    (returned : (refresh request db used).1 = .ok response) : Names db response := by
  unfold refresh at returned
  split at returned
  · cases returned
  · split at returned
    · split at returned
      · cases returned
      · dsimp only at returned
        split at returned
        · cases returned
        · split at returned
          · cases returned
          · rename_i member found
            cases returned
            exact names_issued (Table.mem_of_find? found)
    · cases returned

theorem tokens_name {pytz : String → Option TzInfo} {server : ServerState}
    {event : ServerEvent} (issued : response ∈ tokens? verifyPassword server event) :
    Names (serverStep pytz verifyPassword server event).world.db response := by
  cases event with
  | signInWithApple request =>
      obtain ⟨next, returned⟩ := mem_map_fst.mp issued
      simp only [serverStep, ServerState.answer, returned, Except.map, Api.commit]
      exact signInWithApple_names returned
  | register request =>
      obtain ⟨next, returned⟩ := mem_map_fst.mp issued
      simp only [serverStep, ServerState.answer, returned, Except.map, Api.commit]
      exact register_names returned
  | linkAccount request =>
      obtain ⟨next, returned⟩ := mem_map_fst.mp issued
      simp only [serverStep, ServerState.answer, returned, Except.map, Api.commit]
      exact linkAccount_names returned
  | login request => exact login_names (mem_toOption.mp issued)
  | refresh request => exact refresh_names (mem_toOption.mp issued)
  | api | generateLinkCode | verifyMemberPin | changePassword | updatePushToken => cases issued

end Requests

/-! ## Every run -/

section Runs

variable (pytz : String → Option TzInfo) (verifyPassword : String → String → Bool)

theorem tokens_still_name {before after : List ServerEvent} {event : ServerEvent}
    {response : TokenResponse}
    (issued : response ∈ tokens? verifyPassword (served pytz verifyPassword before) event) :
    Names (served pytz verifyPassword (before ++ event :: after)).world.db response := by
  have stay := @served_relates pytz verifyPassword _ MembersStay.refl
    (fun _ _ _ early write => early.trans write.membersStay) (before ++ [event]) after
  rw [served_snoc, List.append_assoc] at stay
  exact (tokens_name issued).later stay

/-- The tokens an event of a run issues name, at the end of the run, a member as they are
stored, of a household that is there. -/
def TokensHold (before : List ServerEvent) (event : ServerEvent) (after : List ServerEvent) :
    Prop :=
  ∀ response ∈ tokens? verifyPassword (served pytz verifyPassword before) event,
    let db := (served pytz verifyPassword (before ++ event :: after)).world.db
    Names db response ∧ ∃ household ∈ db.households.rows, household.id = response.householdId

theorem tokens_hold (before : List ServerEvent) (event : ServerEvent)
    (after : List ServerEvent) : TokensHold pytz verifyPassword before event after := by
  intro response issued db
  have names : Names db response := tokens_still_name pytz verifyPassword issued
  obtain ⟨member, stored, _, home, _⟩ := names.member
  have families := (families_always pytz verifyPassword (before ++ event :: after)).at_end
  obtain ⟨household, householdStored, named⟩ := families.homes member stored
  exact ⟨names, household, householdStored, named.trans home⟩

end Runs

end KidsChores.Properties
