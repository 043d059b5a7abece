import KidsChores.Auth.Tokens

/-!
# The two kinds of tokens

An access token does not refresh.  A refresh token, redeemed or not, signs its member in
until it expires: `get_current_member` does not ask for the kind.
-/

set_option autoImplicit false

namespace KidsChores.Properties

open KidsChores.Auth
open KidsChores.Auth.Tokens
open KidsChores.Library.Expiring
open KidsChores.Models
open KidsChores.Routers
open KidsChores.Routers.Auth
open KidsChores.Services.RefreshTokens

universe u

variable {Token : Type u} {jose : Jose Token} {settings : Settings} {db : Database}
  {used : UsedKeys ℚ} {memberId householdId : Uuid} {issued now : ℚ} {jti : Option String}
  {hex : String}

/-- No endpoint takes the token: neither as a bearer token nor as a refresh token. -/
structure GrantsNothing (jose : Jose Token) (token : Token) (now : ℚ) (db : Database)
    (used : UsedKeys ℚ) : Prop where
  bearer : ∃ raised, Tokens.getCurrentMember jose token now db = .error raised
  refresh : ∀ read sent, ∃ raised,
    (refreshWith jose token ⟨now, read, sent⟩ db used).1 = .error raised

/-- The token was redeemed, and its record is as that redemption left it. -/
def RotatedOut (jose : Jose Token) (token : Token) (jti : String) (used : UsedKeys ℚ) :
    Prop :=
  ∃ times db before response, (refreshWith jose token times db before).1 = .ok response ∧
    used jti = (refreshWith jose token times db before).2 jti

def tokenId (jti : Option String) (hex : String) : String :=
  (jti.filter (· ≠ "")).getD hex

/-- At the time of use the kinds are kept apart: the refresh token signs nobody in, the
access token does not refresh, and a rotated-out refresh token grants nothing. -/
structure KindsApart (jose : Jose Token) (settings : Settings) (issued : ℚ)
    (memberId householdId : Uuid) (jti : Option String) (hex : String) (now : ℚ)
    (db : Database) (used : UsedKeys ℚ) : Prop where
  refreshIsNoAccess : ∃ raised, Tokens.getCurrentMember jose
    (createRefreshToken jose settings issued memberId jti hex) now db = .error raised
  accessIsNoRefresh : ∀ read sent, ∃ raised, (refreshWith jose
    (createAccessToken jose settings issued memberId householdId) ⟨now, read, sent⟩
      db used).1 = .error raised
  rotatedOut : RotatedOut jose (createRefreshToken jose settings issued memberId jti hex)
      (tokenId jti hex) used →
    GrantsNothing jose (createRefreshToken jose settings issued memberId jti hex) now db used

/-! ## The decoders -/

section Decoders

variable (lawful : jose.RoundTrip)
include lawful

theorem decodeToken_encode (payload : Payload) (now : ℚ) :
    decodeToken jose (jose.encode payload) now =
      if ⌊now⌋ ≤ payload.exp then .ok payload else .error "Invalid or expired token" := by
  unfold decodeToken
  split
  · rename_i failed
    split
    · rename_i inTime
      rw [lawful.inTime payload now inTime] at failed
      cases failed
    · rfl
  · rename_i decoded found
    split
    · rename_i inTime
      rw [lawful.inTime payload now inTime] at found
      cases found
      rfl
    · rename_i late
      rw [lawful.expired payload now (Int.not_le.mp late)] at found
      cases found

/-- An access token has no `type`, so `decode_refresh_token` raises. -/
theorem decodeRefreshToken_access (now : ℚ) :
    (decodeRefreshToken jose
      (createAccessToken jose settings issued memberId householdId) now).toOption = none := by
  unfold decodeRefreshToken createAccessToken
  rw [decodeToken_encode lawful]
  split
  · rfl
  · rfl

theorem access_refused (times : Redemption) :
    ∃ raised, (refreshWith jose
      (createAccessToken jose settings issued memberId householdId) times db used).1 =
        .error raised := by
  unfold refreshWith
  rw [decodeRefreshToken_access lawful]
  exact ⟨_, rfl⟩

theorem refresh_signs_in (inTime : ⌊now⌋ ≤ refreshExpiry settings issued) :
    Tokens.getCurrentMember jose (createRefreshToken jose settings issued memberId jti hex)
      now db = Routers.getCurrentMember db memberId := by
  unfold Tokens.getCurrentMember createRefreshToken
  rw [decodeToken_encode lawful, if_pos inTime]

theorem expired_grants_nothing (late : refreshExpiry settings issued < ⌊now⌋) :
    GrantsNothing jose (createRefreshToken jose settings issued memberId jti hex) now db
      used := by
  have refused : decodeToken jose
      (createRefreshToken jose settings issued memberId jti hex) now =
        .error "Invalid or expired token" := by
    unfold createRefreshToken
    rw [decodeToken_encode lawful, if_neg (Int.not_le.mpr late)]
  constructor
  · unfold Tokens.getCurrentMember
    rw [refused]
    exact ⟨_, rfl⟩
  · intro read sent
    unfold refreshWith decodeRefreshToken
    rw [refused]
    exact ⟨_, rfl⟩

end Decoders

theorem absent_grants_nothing (lawful : jose.RoundTrip)
    (absent : db.members.find? memberId = none) :
    GrantsNothing jose (createRefreshToken jose settings issued memberId jti hex) now db
      used := by
  by_cases inTime : ⌊now⌋ ≤ refreshExpiry settings issued
  · constructor
    · rw [refresh_signs_in lawful inTime]
      unfold Routers.getCurrentMember
      rw [absent]
      exact ⟨_, rfl⟩
    · intro read sent
      have decoded : decodeRefreshToken jose
          (createRefreshToken jose settings issued memberId jti hex) now =
            .ok { sub := memberId, type := some "refresh", jti := some (tokenId jti hex),
                  exp := refreshExpiry settings issued } := by
        unfold decodeRefreshToken createRefreshToken
        rw [decodeToken_encode lawful, if_pos inTime]
        rfl
      unfold refreshWith
      rw [decoded]
      simp only [Except.toOption, Option.map_some, refresh]
      split
      · exact ⟨_, rfl⟩
      · dsimp only
        rw [absent]
        split
        · exact ⟨_, rfl⟩
        · exact ⟨_, rfl⟩
  · exact expired_grants_nothing lawful (Int.not_le.mp inTime)

theorem token_kinds_apart_iff (lawful : jose.RoundTrip) :
    (KindsApart jose settings issued memberId householdId jti hex now db used ↔
      refreshExpiry settings issued < ⌊now⌋ ∨ db.members.find? memberId = none) ∧
      ∀ times, ∃ raised, (refreshWith jose
        (createAccessToken jose settings issued memberId householdId) times db used).1 =
          .error raised := by
  refine ⟨⟨?_, ?_⟩, access_refused lawful⟩
  · intro apart
    by_cases late : refreshExpiry settings issued < ⌊now⌋
    · exact Or.inl late
    · obtain ⟨raised, refused⟩ := apart.refreshIsNoAccess
      rw [refresh_signs_in lawful (Int.not_lt.mp late)] at refused
      unfold Routers.getCurrentMember at refused
      cases found : db.members.find? memberId with
      | none => exact Or.inr rfl
      | some member =>
          rw [found] at refused
          cases refused
  · intro useless
    have nothing : GrantsNothing jose
        (createRefreshToken jose settings issued memberId jti hex) now db used := by
      rcases useless with late | absent
      · exact expired_grants_nothing lawful late
      · exact absent_grants_nothing lawful absent
    exact ⟨nothing.bearer, fun read sent => access_refused lawful ⟨now, read, sent⟩,
      fun _ => nothing⟩

/-! ## A token in the clear -/

def plainJose : Jose Payload where
  encode payload := payload
  decode token now := if ⌊now⌋ ≤ token.exp then some token else none

theorem plainJose_roundTrip : plainJose.RoundTrip where
  inTime _ _ inTime := if_pos inTime
  expired _ _ late := if_neg (Int.not_le.mpr late)

def teenToken : Payload := createRefreshToken plainJose {} 0 2 none "a7"

theorem token_kinds_apart_later :
    KindsApart plainJose {} 0 2 1 none "a7" 2592001
      (sampleDatabase sampleDefinition sampleTask) Store.empty := by
  have late : refreshExpiry {} 0 < ⌊(2592001 : ℚ)⌋ := by decide +kernel
  exact (token_kinds_apart_iff plainJose_roundTrip).1.mpr (Or.inl late)

/-- A day later the rotated-out token is refused by the refresh and signs the teen in. -/
theorem rotated_token_signs_in :
    RotatedOut plainJose teenToken "a7"
        (refreshWith plainJose teenToken ⟨60, 60, 60⟩
          (sampleDatabase sampleDefinition sampleTask) Store.empty).2 ∧
      (refreshWith plainJose teenToken ⟨86400, 86400, 86400⟩
        (sampleDatabase sampleDefinition sampleTask)
        (refreshWith plainJose teenToken ⟨60, 60, 60⟩
          (sampleDatabase sampleDefinition sampleTask) Store.empty).2).1 =
            .error alreadyUsed ∧
      Tokens.getCurrentMember plainJose teenToken 86400
        (sampleDatabase sampleDefinition sampleTask) = .ok sampleTeen := by
  refine ⟨⟨⟨60, 60, 60⟩, sampleDatabase sampleDefinition sampleTask, Store.empty,
    TokenResponse.issue sampleTeen 1, ?_, rfl⟩, ?_, ?_⟩
  · decide +kernel
  · decide +kernel
  · decide +kernel

end KidsChores.Properties
