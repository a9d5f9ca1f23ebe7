/-
The accounts of SIP users.

The control plane keeps an account as a hash of its password.  A request is one
statement, except for an update: it reads the row, and then writes all columns, those it
was not asked to change as it has read them.  Statements of other requests can come in
between.

* `UserApi.step` — the statements of any number of requests, in any order;
* `Account`, `Directory` — accounts by their passwords, and what a request makes of them;
* `UserApi.Serial` — the table is that of the requests so far, one after another;
* `UserApi.Sound`, `UserApi.Hashed` — what holds in every run;
* `Fresh` — what an update was not asked to change is still as it was read;
* `serial_iff_fresh` — when requests that overlap come to the same as one after another;
* `UsersStore.Shows` — the engine's snapshot, and its searches.

Design notes: an update takes its place at its last statement, and a request whose
statement fails has none.  The hash is a parameter.  The `id` column has 32 bits: a
request for a greater id is refused by the database and answered 400, and is taken here as
one for a row that is not there; the table stays as it is either way.
-/
import SbcEngine.KeyedRows
import SbcEngine.Registrar
import SbcEngine.Runs

namespace SbcEngine

open KeyedRows Runs

/-! ### The table -/

/-- A row of `sip_users`. -/
structure SipUserRow where
  id : ℕ
  username : String
  realm : String
  ha1 : String
  enabled : Bool
  deriving DecidableEq, Repr

/-- `unique(username, realm)` -/
def SipUserRow.name (row : SipUserRow) : String × String := (row.username, row.realm)

/-- The table, and the sequence of its ids. -/
structure UserDb where
  rows : List SipUserRow
  nextId : ℕ
  deriving DecidableEq, Repr

/-! ### Requests -/

/-- What `min(1)` admits. -/
abbrev NonEmpty := { s : String // s ≠ "" }

/-- `sipUserBodySchema` -/
structure SipUserBody where
  username : NonEmpty
  realm : NonEmpty
  password : NonEmpty
  enabled : Option Bool

/-- `sipUserUpdateBodySchema` -/
structure SipUserUpdateBody where
  password : Option NonEmpty
  enabled : Option Bool

inductive UserRequest where
  | create (body : SipUserBody)
  | update (id : ℕ) (body : SipUserUpdateBody)
  | delete (id : ℕ)

structure SipUserPublic where
  id : ℕ
  username : String
  realm : String
  enabled : Bool
  deriving DecidableEq, Repr

def toPublicUser (row : SipUserRow) : SipUserPublic where
  id := row.id
  username := row.username
  realm := row.realm
  enabled := row.enabled

/-- What a request is answered with. -/
inductive UserAnswer where
  | created (user : SipUserPublic)
  | ok (user : Option SipUserPublic)
  | notFound (message : String)
  | conflict
  | internalServerError
  deriving DecidableEq, Repr

/-- An update that has read the row, and is to write it. -/
structure PendingUpdate where
  id : ℕ
  body : SipUserUpdateBody
  current : SipUserRow

/-- The table and the updates under way; `log` has the requests that were answered, in
the order of their last statements. -/
structure UserApi where
  db : UserDb
  updates : List PendingUpdate
  log : List (UserRequest × UserAnswer)

/-- A statement of one of the requests. -/
inductive UserStatement where
  | insert (body : SipUserBody)
  | select (id : ℕ) (body : SipUserUpdateBody)
  /-- The write of an update that is under way. -/
  | set (k : ℕ)
  | delete (id : ℕ)
  /-- The write fails, or the process ends before it. -/
  | abandon (k : ℕ)

section Statements

variable (md5 : String → String)

def computeHa1 (username realm password : String) : String :=
  md5 (username ++ ":" ++ realm ++ ":" ++ password)

/-- The row an update writes over `row`, whatever it has read. -/
def PendingUpdate.write (u : PendingUpdate) (row : SipUserRow) : SipUserRow :=
  { row with
    ha1 := (u.body.password.map fun password =>
      computeHa1 md5 u.current.username u.current.realm password.1).getD u.current.ha1
    enabled := u.body.enabled.getD u.current.enabled }

namespace UserApi

def answered (r : UserRequest) (a : UserAnswer) (s : UserApi) : UserApi :=
  { s with log := s.log ++ [(r, a)] }

def notFoundMessage (id : ℕ) : String := s!"SIP user {id} not found"

/-- `createSipUser`.  An insert that breaks the constraint has taken an id. -/
def insert (body : SipUserBody) (s : UserApi) : UserApi :=
  let row : SipUserRow :=
    { id := s.db.nextId
      username := body.username.1
      realm := body.realm.1
      ha1 := computeHa1 md5 body.username.1 body.realm.1 body.password.1
      enabled := body.enabled.getD true }
  match rowAt SipUserRow.name s.db.rows row.name with
  | some _ =>
    answered (.create body) .conflict { s with db := { s.db with nextId := s.db.nextId + 1 } }
  | none =>
    answered (.create body) (.created (toPublicUser row))
      { s with db := ⟨s.db.rows ++ [row], s.db.nextId + 1⟩ }

/-- The first statement of `updateSipUser`. -/
def select (id : ℕ) (body : SipUserUpdateBody) (s : UserApi) : UserApi :=
  match rowAt SipUserRow.id s.db.rows id with
  | none => answered (.update id body) (.notFound (notFoundMessage id)) s
  | some current => { s with updates := s.updates ++ [⟨id, body, current⟩] }

/-- The second one.  Without a row to return there is no user to answer with. -/
def set (u : PendingUpdate) (s : UserApi) : UserApi :=
  let db := { s.db with rows := s.db.rows.map fun row => if row.id = u.id then u.write md5 row else row }
  match rowAt SipUserRow.id db.rows u.id with
  | none => answered (.update u.id u.body) .internalServerError { s with db := db }
  | some updated => answered (.update u.id u.body) (.ok (some (toPublicUser updated))) { s with db := db }

/-- `deleteSipUser` -/
def delete (id : ℕ) (s : UserApi) : UserApi :=
  match rowAt SipUserRow.id s.db.rows id with
  | none => answered (.delete id) (.notFound (notFoundMessage id)) s
  | some _ =>
    answered (.delete id) (.ok none)
      { s with db := { s.db with rows := s.db.rows.filter fun row => row.id ≠ id } }

def step (s : UserApi) : UserStatement → Option UserApi
  | .insert body => some (s.insert md5 body)
  | .select id body => some (s.select id body)
  | .set k => s.updates[k]?.map fun u => set md5 u { s with updates := s.updates.eraseIdx k }
  | .delete id => some (s.delete id)
  | .abandon k => s.updates[k]?.map fun _ => { s with updates := s.updates.eraseIdx k }

/-- No request yet. -/
def start (db : UserDb) : UserApi where
  db := db
  updates := []
  log := []

end UserApi

end Statements

/-! ### Accounts -/

structure Account where
  username : String
  realm : String
  password : String
  enabled : Bool

/-- The accounts by their ids. -/
structure Directory where
  account : ℕ → Option Account
  nextId : ℕ

namespace Directory

/-- An account has the name. -/
def Taken (d : Directory) (username realm : String) : Prop :=
  ∃ id a, d.account id = some a ∧ a.username = username ∧ a.realm = realm

/-- An account with what an update asks for. -/
def updated (body : SipUserUpdateBody) (a : Account) : Account :=
  { a with
    password := (body.password.map (·.1)).getD a.password
    enabled := body.enabled.getD a.enabled }

def publicUser (id : ℕ) (a : Account) : SipUserPublic where
  id := id
  username := a.username
  realm := a.realm
  enabled := a.enabled

open Classical in
/-- What a request that comes alone is answered with, and what it makes of the
accounts. -/
noncomputable def serve (d : Directory) : UserRequest → UserAnswer × Directory
  | .create body =>
    let a : Account := ⟨body.username.1, body.realm.1, body.password.1, body.enabled.getD true⟩
    if d.Taken a.username a.realm then (.conflict, { d with nextId := d.nextId + 1 })
    else
      (.created (publicUser d.nextId a),
        ⟨Function.update d.account d.nextId (some a), d.nextId + 1⟩)
  | .update id body =>
    match d.account id with
    | none => (.notFound (UserApi.notFoundMessage id), d)
    | some a =>
      (.ok (some (publicUser id (updated body a))),
        { d with account := Function.update d.account id (some (updated body a)) })
  | .delete id =>
    match d.account id with
    | none => (.notFound (UserApi.notFoundMessage id), d)
    | some _ => (.ok none, { d with account := Function.update d.account id none })

def Serves (d : Directory) (r : UserRequest) (a : UserAnswer) (d' : Directory) : Prop :=
  d.serve r = (a, d')

theorem Serves.unique {d d' d'' : Directory} {r : UserRequest} {a : UserAnswer}
    (h : d.Serves r a d') (h' : d.Serves r a d'') : d' = d'' :=
  (Prod.ext_iff.mp (Eq.trans (Eq.symm h) h')).2

end Directory

/-! ### Rows and accounts -/

section Represents

variable (md5 : String → String)

/-- The row of an account. -/
def Account.row (id : ℕ) (a : Account) : SipUserRow where
  id := id
  username := a.username
  realm := a.realm
  ha1 := computeHa1 md5 a.username a.realm a.password
  enabled := a.enabled

/-- The rows are those of the accounts. -/
structure UserDb.Represents (db : UserDb) (d : Directory) : Prop where
  rows : ∀ id, rowAt SipUserRow.id db.rows id = (d.account id).map (Account.row md5 id)
  nextId : db.nextId = d.nextId

/-- Ids come from the sequence, and no two rows have one id or one name. -/
structure UserDb.Valid (db : UserDb) : Prop where
  ids : UniqueKeys SipUserRow.id db.rows
  names : UniqueKeys SipUserRow.name db.rows
  issued : ∀ row ∈ db.rows, row.id < db.nextId

theorem UserDb.Represents.mem_iff {md5 : String → String} {db : UserDb} {d : Directory}
    (hdb : db.Represents md5 d) (hids : UniqueKeys SipUserRow.id db.rows) {row : SipUserRow} :
    row ∈ db.rows ↔ ∃ id a, d.account id = some a ∧ a.row md5 id = row := by
  constructor
  · intro hrow
    have hat := hdb.rows row.id
    rw [rowAt_self hids hrow] at hat
    obtain ⟨a, ha, heq⟩ := Option.map_eq_some_iff.mp hat.symm
    exact ⟨row.id, a, ha, heq⟩
  · rintro ⟨id, a, ha, rfl⟩
    have hat := hdb.rows id
    rw [ha, Option.map_some] at hat
    exact (mem_of_rowAt hat).1

namespace UserApi

/-- The table is that of the requests so far, one after another, and so are their
answers. -/
def Serial (d : Directory) (s : UserApi) : Prop :=
  ∃ d', Traces Directory.Serves d s.log d' ∧ s.db.Represents md5 d'

/-- In every run an update that is under way has read the name of its row, if the row is
still there: names do not change, and ids do not come back. -/
structure Sound (s : UserApi) : Prop where
  valid : s.db.Valid
  updates : ∀ u ∈ s.updates, u.id < s.db.nextId ∧
    ∀ row ∈ s.db.rows, row.id = u.id → row.name = u.current.name

/-- What an update was not asked to change is as it has read it. -/
def Fresh (s : UserApi) : UserStatement → Prop
  | .set k => ∀ u ∈ s.updates[k]?, ∃ row ∈ s.db.rows, row.id = u.id ∧
      (u.body.password = none → row.ha1 = u.current.ha1) ∧
      (u.body.enabled = none → row.enabled = u.current.enabled)
  | _ => True

instance (s : UserApi) : (e : UserStatement) → Decidable (s.Fresh e)
  | .set k =>
    inferInstanceAs (Decidable (∀ u ∈ s.updates[k]?, ∃ row ∈ s.db.rows, row.id = u.id ∧
      (u.body.password = none → row.ha1 = u.current.ha1) ∧
      (u.body.enabled = none → row.enabled = u.current.enabled)))
  | .insert _ | .select _ _ | .delete _ | .abandon _ => .isTrue trivial

/-! ### Every run -/

section Sound

variable {md5 : String → String} {s s' : UserApi}

theorem step_sound {e : UserStatement} (h : s.Sound) (hstep : s.step md5 e = some s') : s'.Sound := by
  obtain ⟨⟨hids, hnames, hissued⟩, hupdates⟩ := h
  cases e with
  | insert body =>
    cases hstep
    rw [insert]
    dsimp only
    split
    · refine ⟨⟨hids, hnames, fun row hrow => Nat.lt_succ_of_lt (hissued row hrow)⟩, fun u hu => ?_⟩
      obtain ⟨hlt, hname⟩ := hupdates u hu
      exact ⟨Nat.lt_succ_of_lt hlt, hname⟩
    · rename_i hfree
      refine ⟨⟨?_, (uniqueKeys_concat hnames).mpr hfree, fun row hrow => ?_⟩, fun u hu => ?_⟩
      · -- the new id comes after all others
        refine (uniqueKeys_concat hids).mpr (rowAt_eq_none_iff.mpr fun row hrow => ?_)
        exact Nat.ne_of_lt (hissued row hrow)
      · rcases List.mem_append.mp hrow with hold | hnew
        · exact Nat.lt_succ_of_lt (hissued row hold)
        · rw [List.mem_singleton.mp hnew]
          exact Nat.lt_succ_self _
      · obtain ⟨hlt, hname⟩ := hupdates u hu
        refine ⟨Nat.lt_succ_of_lt hlt, fun row hrow hid => ?_⟩
        rcases List.mem_append.mp hrow with hold | hnew
        · exact hname row hold hid
        · rw [List.mem_singleton.mp hnew] at hid
          exact absurd hid (Nat.ne_of_gt hlt)
  | select id body =>
    cases hstep
    rw [select]
    split
    · exact ⟨⟨hids, hnames, hissued⟩, hupdates⟩
    · rename_i current hcurrent
      obtain ⟨hmem, hid⟩ := mem_of_rowAt hcurrent
      refine ⟨⟨hids, hnames, hissued⟩, fun u hu => ?_⟩
      rcases List.mem_append.mp hu with hold | hnew
      · exact hupdates u hold
      · rw [List.mem_singleton.mp hnew]
        refine ⟨hid ▸ hissued current hmem, fun row hrow hrowId => ?_⟩
        rw [eq_of_key hids hrow hmem (hrowId.trans hid.symm)]
  | set k =>
    obtain ⟨u, hu, rfl⟩ := Option.map_eq_some_iff.mp hstep
    set f : SipUserRow → SipUserRow := fun row => if row.id = u.id then u.write md5 row else row with hf
    have hkept : ∀ row : SipUserRow, (f row).id = row.id ∧ (f row).name = row.name := by
      intro row
      rw [hf]
      dsimp only
      split_ifs
      · exact ⟨rfl, rfl⟩
      · exact ⟨rfl, rfl⟩
    have hrest : ∀ db : UserDb, db.rows = s.db.rows.map f → db.nextId = s.db.nextId →
        ∀ log, Sound { db := db, updates := s.updates.eraseIdx k, log := log } := by
      intro db hrows hnextId log
      refine ⟨⟨?_, ?_, fun row hrow => ?_⟩, fun u' hu' => ?_⟩
      · rw [hrows]
        exact uniqueKeys_map Function.injective_id (fun row _ => (hkept row).1) hids
      · rw [hrows]
        exact uniqueKeys_map Function.injective_id (fun row _ => (hkept row).2) hnames
      · rw [hrows] at hrow
        obtain ⟨before, hbefore, rfl⟩ := List.mem_map.mp hrow
        rw [(hkept before).1, hnextId]
        exact hissued before hbefore
      · obtain ⟨hlt, hname⟩ := hupdates u' (List.mem_of_mem_eraseIdx hu')
        refine ⟨hnextId ▸ hlt, fun row hrow hid => ?_⟩
        change row ∈ db.rows at hrow
        rw [hrows] at hrow
        obtain ⟨before, hbefore, rfl⟩ := List.mem_map.mp hrow
        rw [(hkept before).1] at hid
        rw [(hkept before).2]
        exact hname before hbefore hid
    rw [set]
    dsimp only
    split
    · exact hrest { s.db with rows := s.db.rows.map f } rfl rfl _
    · exact hrest { s.db with rows := s.db.rows.map f } rfl rfl _
  | delete id =>
    cases hstep
    rw [delete]
    split
    · exact ⟨⟨hids, hnames, hissued⟩, hupdates⟩
    · refine ⟨⟨hids.filter _, hnames.filter _, fun row hrow => hissued row (List.mem_of_mem_filter hrow)⟩,
        fun u hu => ?_⟩
      obtain ⟨hlt, hname⟩ := hupdates u hu
      exact ⟨hlt, fun row hrow => hname row (List.mem_of_mem_filter hrow)⟩
  | abandon k =>
    obtain ⟨u, -, rfl⟩ := Option.map_eq_some_iff.mp hstep
    exact ⟨⟨hids, hnames, hissued⟩, fun u hu => hupdates u (List.mem_of_mem_eraseIdx hu)⟩

end Sound

/-! ### Stored hashes -/

/-- A password the account was created with, or an update that was answered has set. -/
inductive WasSet (d : Directory) (s : UserApi) (id : ℕ) (password : String) : Prop
  | start (a : Account) (h : d.account id = some a) (hpassword : a.password = password)
  | create (body : SipUserBody) (user : SipUserPublic) (hid : user.id = id)
      (h : (UserRequest.create body, UserAnswer.created user) ∈ s.log)
      (hpassword : body.password.1 = password)
  | update (body : SipUserUpdateBody) (a : UserAnswer) (h : (UserRequest.update id body, a) ∈ s.log)
      (hpassword : body.password.map (·.1) = some password)

/-- The hash of a row, or of one that was read, is of a password that was set for it. -/
def IsHash (md5 : String → String) (d : Directory) (s : UserApi) (id : ℕ) (row : SipUserRow) : Prop :=
  ∃ password, WasSet d s id password ∧ row.ha1 = computeHa1 md5 row.username row.realm password

/-- Whatever overlaps, every hash is of a password that was set for its account. -/
structure Hashed (md5 : String → String) (d : Directory) (s : UserApi) : Prop where
  rows : ∀ row ∈ s.db.rows, IsHash md5 d s row.id row
  updates : ∀ u ∈ s.updates, IsHash md5 d s u.id u.current

section Hashed

variable {md5 : String → String} {d : Directory} {s s' : UserApi}

theorem IsHash.answered {id : ℕ} {row : SipUserRow} (h : IsHash md5 d s id row)
    (hlog : s.log <+: s'.log) : IsHash md5 d s' id row := by
  obtain ⟨password, hset, hhash⟩ := h
  refine ⟨password, ?_, hhash⟩
  cases hset with
  | start a ha hpassword => exact .start a ha hpassword
  | create body user hid h hpassword => exact .create body user hid (hlog.subset h) hpassword
  | update body a h hpassword => exact .update body a (hlog.subset h) hpassword

/-- A statement that writes no hash. -/
theorem Hashed.of_rows (h : s.Hashed md5 d) (hlog : s.log <+: s'.log)
    (hrows : ∀ row ∈ s'.db.rows, row ∈ s.db.rows) (hupdates : ∀ u ∈ s'.updates, u ∈ s.updates) :
    s'.Hashed md5 d where
  rows row hrow := (h.rows row (hrows row hrow)).answered hlog
  updates u hu := (h.updates u (hupdates u hu)).answered hlog

theorem set_hashed (hsound : s.Sound) (h : s.Hashed md5 d) {k : ℕ} {u : PendingUpdate}
    (hu : s.updates[k]? = some u) :
    (set md5 u { s with updates := s.updates.eraseIdx k }).Hashed md5 d := by
  have hmem := List.mem_of_getElem? hu
  have hlogged : ∀ a, IsHash md5 d (answered (.update u.id u.body) a s) u.id
      (u.write md5 u.current) := by
    intro a
    cases hpassword : u.body.password with
    | none =>
      have hlog : s.log <+: (answered (.update u.id u.body) a s).log := List.prefix_append _ _
      obtain ⟨password, hset, hhash⟩ := (h.updates u hmem).answered hlog
      refine ⟨password, hset, ?_⟩
      simp only [PendingUpdate.write, hpassword, Option.map_none, Option.getD_none]
      exact hhash
    | some password =>
      refine ⟨password.1, .update u.body a (List.mem_append_right _ (List.mem_singleton.mpr rfl))
        (by rw [hpassword]; rfl), ?_⟩
      simp only [PendingUpdate.write, hpassword, Option.map_some, Option.getD_some]
  have hwritten : ∀ db : UserDb, db.rows = (s.db.rows.map fun row =>
      if row.id = u.id then u.write md5 row else row) → ∀ a, Hashed md5 d
        (answered (.update u.id u.body) a { db := db, updates := s.updates.eraseIdx k, log := s.log }) := by
    intro db hrows a
    refine ⟨fun row hrow => ?_, fun u' hu' => ?_⟩
    · change row ∈ db.rows at hrow
      rw [hrows] at hrow
      obtain ⟨before, hbefore, rfl⟩ := List.mem_map.mp hrow
      split_ifs with hid
      · -- the row has the name that was read with the hash
        have hname := (hsound.updates u hmem).2 before hbefore hid
        obtain ⟨husername, hrealm⟩ := Prod.ext_iff.mp hname
        obtain ⟨password, hset, hhash⟩ := hlogged a
        refine ⟨password, ?_, ?_⟩
        · change WasSet d _ before.id password
          rw [hid]
          cases hset with
          | start a ha hpassword => exact .start a ha hpassword
          | create body user hid h hpassword => exact .create body user hid h hpassword
          | update body a h hpassword => exact .update body a h hpassword
        · change _ = computeHa1 md5 before.username before.realm password
          change before.username = u.current.username at husername
          change before.realm = u.current.realm at hrealm
          rw [husername, hrealm]
          exact hhash
      · exact (h.rows before hbefore).answered (List.prefix_append _ _)
    · exact (h.updates u' (List.mem_of_mem_eraseIdx hu')).answered (List.prefix_append _ _)
  rw [set]
  dsimp only
  split
  · exact hwritten { s.db with rows := _ } rfl _
  · exact hwritten { s.db with rows := _ } rfl _

theorem step_hashed {e : UserStatement} (hsound : s.Sound) (h : s.Hashed md5 d)
    (hstep : s.step md5 e = some s') : s'.Hashed md5 d := by
  cases e with
  | insert body =>
    cases hstep
    rw [insert]
    dsimp only
    split
    · exact h.of_rows (List.prefix_append _ _) (fun _ hrow => hrow) fun _ hu => hu
    · refine ⟨fun row hrow => ?_, fun u hu => (h.updates u hu).answered (List.prefix_append _ _)⟩
      rcases List.mem_append.mp hrow with hold | hnew
      · exact (h.rows row hold).answered (List.prefix_append _ _)
      · rw [List.mem_singleton.mp hnew]
        exact ⟨body.password.1,
          .create body _ rfl (List.mem_append_right _ (List.mem_singleton.mpr rfl)) rfl, rfl⟩
  | select id body =>
    cases hstep
    rw [select]
    split
    · exact h.of_rows (List.prefix_append _ _) (fun _ hrow => hrow) fun _ hu => hu
    · rename_i current hcurrent
      obtain ⟨hmem, rfl⟩ := mem_of_rowAt hcurrent
      refine ⟨fun row hrow => (h.rows row hrow).answered (List.prefix_refl _), fun u hu => ?_⟩
      rcases List.mem_append.mp hu with hold | hnew
      · exact (h.updates u hold).answered (List.prefix_refl _)
      · rw [List.mem_singleton.mp hnew]
        exact (h.rows current hmem).answered (List.prefix_refl _)
  | set k =>
    obtain ⟨u, hu, rfl⟩ := Option.map_eq_some_iff.mp hstep
    exact set_hashed hsound h hu
  | delete id =>
    cases hstep
    rw [delete]
    split
    · exact h.of_rows (List.prefix_append _ _) (fun _ hrow => hrow) fun _ hu => hu
    · exact h.of_rows (List.prefix_append _ _) (fun _ hrow => List.mem_of_mem_filter hrow)
        fun _ hu => hu
  | abandon k =>
    obtain ⟨u, -, rfl⟩ := Option.map_eq_some_iff.mp hstep
    exact h.of_rows (List.prefix_refl _) (fun _ hrow => hrow) fun _ hu => List.mem_of_mem_eraseIdx hu

theorem start_hashed {db : UserDb} (hvalid : db.Valid) (hdb : db.Represents md5 d) :
    (start db).Hashed md5 d where
  rows row hrow := by
    obtain ⟨id, a, ha, rfl⟩ := (hdb.mem_iff hvalid.ids).mp hrow
    exact ⟨a.password, .start a ha rfl, rfl⟩
  updates u hu := by cases hu

end Hashed

/-! ### One request after another -/

section Serial

variable {md5 : String → String} {d d' : Directory} {s : UserApi}

/-- The request that was answered last. -/
theorem serial_answered {r : UserRequest} {a : UserAnswer} {s' : UserApi}
    (hlog : s'.log = s.log ++ [(r, a)]) (hd' : Traces Directory.Serves d s.log d') :
    s'.Serial md5 d ↔ (d'.serve r).1 = a ∧ s'.db.Represents md5 (d'.serve r).2 := by
  rw [Serial, hlog]
  constructor
  · rintro ⟨d'', hrun, hdb⟩
    obtain ⟨mid, hmid, hlast⟩ := traces_concat.mp hrun
    obtain rfl : mid = d' := hmid.unique Directory.Serves.unique hd'
    rw [Directory.Serves] at hlast
    rw [hlast]
    exact ⟨rfl, hdb⟩
  · rintro ⟨ha, hdb⟩
    exact ⟨_, traces_concat.mpr ⟨d', hd', Prod.ext ha rfl⟩, hdb⟩

/-- A row that changes as its account does. -/
theorem represents_update {db db' : UserDb} {id nextId : ℕ} {a : Option Account}
    (hdb : db.Represents md5 d') (hnextId : db'.nextId = nextId)
    (hrows : rowAt SipUserRow.id db'.rows =
      Function.update (rowAt SipUserRow.id db.rows) id (a.map (Account.row md5 id))) :
    db'.Represents md5 ⟨Function.update d'.account id a, nextId⟩ := by
  refine ⟨fun id' => ?_, hnextId⟩
  rw [hrows]
  dsimp only
  by_cases hid : id' = id
  · rw [hid, Function.update_self, Function.update_self]
  · rw [Function.update_of_ne hid, Function.update_of_ne hid]
    exact hdb.rows id'

theorem taken_iff (hids : UniqueKeys SipUserRow.id s.db.rows) (hdb : s.db.Represents md5 d')
    {username realm : String} :
    d'.Taken username realm ↔ ∃ row ∈ s.db.rows, row.name = (username, realm) := by
  constructor
  · rintro ⟨id, a, ha, rfl, rfl⟩
    exact ⟨_, (hdb.mem_iff hids).mpr ⟨id, a, ha, rfl⟩, rfl⟩
  · rintro ⟨row, hrow, hname⟩
    obtain ⟨id, a, ha, rfl⟩ := (hdb.mem_iff hids).mp hrow
    exact ⟨id, a, ha, (Prod.ext_iff.mp hname).1, (Prod.ext_iff.mp hname).2⟩

theorem insert_serial (h : s.Sound) (hd' : Traces Directory.Serves d s.log d')
    (hdb : s.db.Represents md5 d') (body : SipUserBody) : (s.insert md5 body).Serial md5 d := by
  have htaken : d'.Taken body.username.1 body.realm.1 ↔ _ := taken_iff h.valid.ids hdb
  rw [insert]
  dsimp only
  split
  · rename_i row hfound
    refine (serial_answered rfl hd').mpr ?_
    rw [Directory.serve]
    dsimp only
    rw [if_pos (htaken.mpr ⟨row, mem_of_rowAt hfound⟩)]
    exact ⟨rfl, hdb.rows, congrArg (· + 1) hdb.nextId⟩
  · rename_i hfree
    refine (serial_answered rfl hd').mpr ?_
    rw [Directory.serve]
    dsimp only
    rw [if_neg]
    · -- the new id is free
      have hnew : rowAt SipUserRow.id s.db.rows s.db.nextId = none :=
        rowAt_eq_none_iff.mpr fun row hrow => Nat.ne_of_lt (h.valid.issued row hrow)
      rw [← hdb.nextId]
      exact ⟨rfl, represents_update hdb rfl (rowAt_concat hnew)⟩
    · rw [htaken]
      rintro ⟨row, hrow, hname⟩
      exact rowAt_eq_none_iff.mp hfree row hrow hname

theorem select_serial (hd' : Traces Directory.Serves d s.log d') (hdb : s.db.Represents md5 d')
    (id : ℕ) (body : SipUserUpdateBody) : (s.select id body).Serial md5 d := by
  rw [select]
  split
  · rename_i hnone
    rw [hdb.rows, Option.map_eq_none_iff] at hnone
    refine (serial_answered rfl hd').mpr ?_
    rw [Directory.serve, hnone]
    exact ⟨rfl, hdb⟩
  · exact ⟨d', hd', hdb⟩

theorem delete_serial (hd' : Traces Directory.Serves d s.log d') (hdb : s.db.Represents md5 d')
    (id : ℕ) : (s.delete id).Serial md5 d := by
  rw [delete]
  split
  · rename_i hnone
    rw [hdb.rows, Option.map_eq_none_iff] at hnone
    refine (serial_answered rfl hd').mpr ?_
    rw [Directory.serve, hnone]
    exact ⟨rfl, hdb⟩
  · rename_i row hrow
    rw [hdb.rows, Option.map_eq_some_iff] at hrow
    obtain ⟨a, ha, -⟩ := hrow
    refine (serial_answered rfl hd').mpr ?_
    rw [Directory.serve, ha]
    exact ⟨rfl, represents_update hdb hdb.nextId (rowAt_filter id)⟩

/-- A write makes of a row what the update makes of its account exactly if the columns
that were left out are as they were read. -/
theorem write_row_iff {u : PendingUpdate} {a : Account}
    (hname : (a.row md5 u.id).name = u.current.name) :
    u.write md5 (a.row md5 u.id) = (Directory.updated u.body a).row md5 u.id ↔
      (u.body.password = none → (a.row md5 u.id).ha1 = u.current.ha1) ∧
        (u.body.enabled = none → (a.row md5 u.id).enabled = u.current.enabled) := by
  obtain ⟨husername, hrealm⟩ := Prod.ext_iff.mp hname
  change a.username = u.current.username at husername
  change a.realm = u.current.realm at hrealm
  simp only [PendingUpdate.write, Account.row, Directory.updated, SipUserRow.mk.injEq, true_and,
    ← husername, ← hrealm]
  refine and_congr ?_ ?_
  · cases u.body.password with
    | none => simp [eq_comm]
    | some password => simp
  · cases u.body.enabled with
    | none => simp [eq_comm]
    | some enabled => simp

/-- The write of an update comes to the same as the update exactly if it is fresh. -/
theorem set_serial_iff (h : s.Sound) (hd' : Traces Directory.Serves d s.log d')
    (hdb : s.db.Represents md5 d') {k : ℕ} {u : PendingUpdate} (hu : s.updates[k]? = some u) :
    (set md5 u { s with updates := s.updates.eraseIdx k }).Serial md5 d ↔ s.Fresh (.set k) := by
  have hrows : rowAt SipUserRow.id
      (s.db.rows.map fun row => if row.id = u.id then u.write md5 row else row) =
        Function.update (rowAt SipUserRow.id s.db.rows) u.id
          ((rowAt SipUserRow.id s.db.rows u.id).map (u.write md5)) := rowAt_change fun _ => rfl
  have hwritten : rowAt SipUserRow.id
      (s.db.rows.map fun row => if row.id = u.id then u.write md5 row else row) u.id =
        (rowAt SipUserRow.id s.db.rows u.id).map (u.write md5) := by
    rw [hrows, Function.update_self]
  have hfresh : s.Fresh (.set k) ↔ ∃ row ∈ s.db.rows, row.id = u.id ∧
      (u.body.password = none → row.ha1 = u.current.ha1) ∧
      (u.body.enabled = none → row.enabled = u.current.enabled) := by
    rw [Fresh, hu]
    simp
  rw [hfresh, set]
  dsimp only
  split
  · -- the row was deleted
    rename_i hnone
    rw [hwritten, Option.map_eq_none_iff] at hnone
    refine iff_of_false (fun hserial => ?_) ?_
    · have hanswer := ((serial_answered rfl hd').mp hserial).1
      rw [hdb.rows, Option.map_eq_none_iff] at hnone
      rw [Directory.serve, hnone] at hanswer
      cases hanswer
    · rintro ⟨row, hrow, hid, -⟩
      exact rowAt_eq_none_iff.mp hnone row hrow hid
  · rename_i updated hupdated
    rw [hwritten] at hupdated
    obtain ⟨row, hrow, rfl⟩ := Option.map_eq_some_iff.mp hupdated
    obtain ⟨hmem, hid⟩ := mem_of_rowAt hrow
    have hat := hrow
    rw [hdb.rows] at hat
    obtain ⟨a, ha, rfl⟩ := Option.map_eq_some_iff.mp hat
    have hname := (h.updates u (List.mem_of_getElem? hu)).2 _ hmem hid
    have hiff := write_row_iff hname
    rw [serial_answered rfl hd', Directory.serve, ha]
    dsimp only
    constructor
    · rintro ⟨-, hdb'⟩
      have hrow' := hdb'.rows u.id
      change rowAt SipUserRow.id (s.db.rows.map fun row => if row.id = u.id then u.write md5 row else row)
        u.id = _ at hrow'
      dsimp only at hrow'
      rw [hwritten, hrow, Function.update_self] at hrow'
      exact ⟨_, hmem, hid, hiff.mp (Option.some.inj hrow')⟩
    · rintro ⟨row, hrow', hid', hkept⟩
      obtain rfl := eq_of_key h.valid.ids hrow' hmem (hid'.trans hid.symm)
      have hwrite := hiff.mpr hkept
      refine ⟨?_, represents_update hdb hdb.nextId ?_⟩
      · rw [hwrite]
        rfl
      · change rowAt SipUserRow.id (s.db.rows.map fun row =>
          if row.id = u.id then u.write md5 row else row) = _
        rw [hrows, hrow, Option.map_some, hwrite]
        rfl

theorem step_serial_iff {s' : UserApi} {e : UserStatement} (h : s.Sound) (hs : s.Serial md5 d)
    (hstep : s.step md5 e = some s') : s'.Serial md5 d ↔ s.Fresh e := by
  obtain ⟨d', hd', hdb⟩ := hs
  cases e with
  | insert body =>
    cases hstep
    exact iff_of_true (insert_serial h hd' hdb body) trivial
  | select id body =>
    cases hstep
    exact iff_of_true (select_serial hd' hdb id body) trivial
  | set k =>
    obtain ⟨u, hu, rfl⟩ := Option.map_eq_some_iff.mp hstep
    exact set_serial_iff h hd' hdb hu
  | delete id =>
    cases hstep
    exact iff_of_true (delete_serial hd' hdb id) trivial
  | abandon k =>
    obtain ⟨u, -, rfl⟩ := Option.map_eq_some_iff.mp hstep
    exact iff_of_true ⟨d', hd', hdb⟩ trivial

end Serial

/-- **Accounts under overlapping requests.**  For every run of the statements of any
number of requests, whatever overlaps: ids and names are unique, and every hash is of a
password that was set for its account.  After each statement the table and all answers
are those of the requests so far, in the order of their last statements and one after
another, exactly if every update writes while its row is there and what it was not asked
to change is as it has read it. -/
theorem serial_iff_fresh {md5 : String → String} {db : UserDb} {d : Directory} (hvalid : db.Valid)
    (hdb : db.Represents md5 d) {es : List UserStatement} {s : UserApi}
    (hrun : run (step md5) (start db) es = some s) :
    s.db.Valid ∧ s.Hashed md5 d ∧
      ((∀ l t, l <+: es → run (step md5) (start db) l = some t → t.Serial md5 d) ↔
        Meets (step md5) Fresh (start db) es) := by
  have hsound : (start db).Sound := ⟨hvalid, fun u hu => by cases hu⟩
  have hserial : (start db).Serial md5 d := ⟨d, .nil d, hdb⟩
  have hkept := run_invariant (step md5) (P := fun s => s.Sound ∧ s.Hashed md5 d)
    (fun hs hstep => ⟨step_sound hs.1 hstep, step_hashed hs.1 hs.2 hstep⟩)
    ⟨hsound, start_hashed hvalid hdb⟩ hrun
  have hiff : _ ↔ Meets (step md5) Fresh (start db) es :=
    run_prefixes_iff (step md5) (P := fun s => s.Sound ∧ s.Serial md5 d)
      (fun hs hstep => by
        rw [and_iff_right (step_sound hs.1 hstep)]
        exact step_serial_iff hs.1 hs.2 hstep)
      ⟨hsound, hserial⟩ hrun
  refine ⟨hkept.1.valid, hkept.2, ?_⟩
  rw [← hiff]
  exact ⟨fun h l t hl ht => ⟨run_invariant (step md5) step_sound hsound ht, h l t hl ht⟩,
    fun h l t hl ht => (h l t hl ht).2⟩

end UserApi

end Represents

/-! ### The engine's searches -/

/-- The JSON of a row that the engine gets. -/
def SipUserRow.user (row : SipUserRow) : SipUser where
  username := row.username
  realm := row.realm
  ha1 := row.ha1
  enabled := row.enabled

def getUsersSnapshot (db : UserDb) : UsersStore := ⟨db.rows.map SipUserRow.user⟩

namespace UsersStore

/-- The snapshot has the accounts, in any order. -/
structure Shows (md5 : String → String) (s : UsersStore) (d : Directory) : Prop where
  unique : UniqueKeys (fun user : SipUser => (user.username, user.realm)) s.users
  mem_iff : ∀ user, user ∈ s.users ↔ ∃ id a, d.account id = some a ∧ user = (a.row md5 id).user

variable {md5 : String → String} {s : UsersStore} {d : Directory}

theorem shows_snapshot {db : UserDb} (hvalid : db.Valid) (hdb : db.Represents md5 d) :
    (getUsersSnapshot db).Shows md5 d := by
  constructor
  · exact List.pairwise_map.mpr hvalid.names
  · intro user
    rw [getUsersSnapshot, List.mem_map]
    constructor
    · rintro ⟨row, hrow, rfl⟩
      obtain ⟨id, a, ha, rfl⟩ := (hdb.mem_iff hvalid.ids).mp hrow
      exact ⟨id, a, ha, rfl⟩
    · rintro ⟨id, a, ha, rfl⟩
      exact ⟨_, (hdb.mem_iff hvalid.ids).mpr ⟨id, a, ha, rfl⟩, rfl⟩

/-- The engine finds the enabled account of a name, and its hash. -/
theorem find_iff (h : s.Shows md5 d) {username realm : String} {user : SipUser} :
    s.find username realm = some user ↔ ∃ id a, d.account id = some a ∧ a.enabled = true ∧
      a.username = username ∧ a.realm = realm ∧ user = (a.row md5 id).user := by
  constructor
  · intro hfind
    have hmem := List.mem_of_find?_eq_some hfind
    obtain ⟨id, a, ha, rfl⟩ := (h.mem_iff user).mp hmem
    have hp := List.find?_some hfind
    simp only [Bool.and_eq_true, decide_eq_true_eq] at hp
    exact ⟨id, a, ha, hp.1.1, hp.1.2, hp.2, rfl⟩
  · rintro ⟨id, a, ha, henabled, rfl, rfl, rfl⟩
    have hmem := (h.mem_iff (a.row md5 id).user).mpr ⟨id, a, ha, rfl⟩
    have hp : ((a.row md5 id).user.enabled && (a.row md5 id).user.username = a.username &&
        (a.row md5 id).user.realm = a.realm : Bool) = true := by
      simp [Account.row, SipUserRow.user, henabled]
    cases hfound : s.find a.username a.realm with
    | none => exact absurd hp (List.find?_eq_none.mp hfound _ hmem)
    | some user =>
      have hp' := List.find?_some hfound
      simp only [Bool.and_eq_true, decide_eq_true_eq] at hp'
      exact congrArg some (eq_of_key h.unique (List.mem_of_find?_eq_some hfound) hmem
        (Prod.ext hp'.1.2 hp'.2))

theorem find_eq_none_iff (h : s.Shows md5 d) {username realm : String} :
    s.find username realm = none ↔
      ¬ ∃ id a, d.account id = some a ∧ a.enabled = true ∧ a.username = username ∧ a.realm = realm := by
  rw [← not_iff_not, not_not, ← Ne, Option.ne_none_iff_exists']
  constructor
  · rintro ⟨user, huser⟩
    obtain ⟨id, a, ha, henabled, husername, hrealm, -⟩ := (find_iff h).mp huser
    exact ⟨id, a, ha, henabled, husername, hrealm⟩
  · rintro ⟨id, a, ha, henabled, husername, hrealm⟩
    exact ⟨_, (find_iff h).mpr ⟨id, a, ha, henabled, husername, hrealm, rfl⟩⟩

/-- The local domains are the realms of the enabled accounts. -/
theorem isLocalDomain_iff (h : s.Shows md5 d) {realm : String} :
    s.isLocalDomain realm = true ↔
      ∃ id a, d.account id = some a ∧ a.enabled = true ∧ a.realm = realm := by
  rw [isLocalDomain, List.any_eq_true]
  constructor
  · rintro ⟨user, huser, hp⟩
    obtain ⟨id, a, ha, rfl⟩ := (h.mem_iff user).mp huser
    simp only [Bool.and_eq_true, decide_eq_true_eq] at hp
    exact ⟨id, a, ha, hp.1, hp.2⟩
  · rintro ⟨id, a, ha, henabled, rfl⟩
    refine ⟨(a.row md5 id).user, (h.mem_iff _).mpr ⟨id, a, ha, rfl⟩, ?_⟩
    simp [Account.row, SipUserRow.user, henabled]

end UsersStore

/-! ### A new password, and a disabled account -/

namespace UserApi

/-- A hash that shows what it was given. -/
def plainHash (text : String) : String := "md5(" ++ text ++ ")"

/-- One account. -/
def alice : UserDb where
  rows := [(⟨"alice", "sbc.local", "old", true⟩ : Account).row plainHash 1]
  nextId := 2

def aliceDirectory : Directory where
  account id := if id = 1 then some ⟨"alice", "sbc.local", "old", true⟩ else none
  nextId := 2

def newPassword : SipUserUpdateBody := ⟨some ⟨"new", by decide⟩, none⟩

def disabled : SipUserUpdateBody := ⟨none, some false⟩

theorem alice_valid : alice.Valid where
  ids := List.pairwise_singleton _ _
  names := List.pairwise_singleton _ _
  issued := by decide

theorem alice_represents : alice.Represents plainHash aliceDirectory where
  rows id := by
    by_cases hid : id = 1
    · rw [hid]
      rfl
    · have hne : ¬ (1 : ℕ) = id := fun h => hid h.symm
      simp [alice, aliceDirectory, rowAt, Account.row, hid, hne]
  nextId := rfl

/-- Both updates read the row before either writes. -/
def overlapping : List UserStatement :=
  [.select 1 newPassword, .select 1 disabled, .set 1, .set 0]

def oneAfterAnother : List UserStatement :=
  [.select 1 newPassword, .set 0, .select 1 disabled, .set 0]

theorem serial_iff_fresh_one_after_another :
    ∃ s, run (step plainHash) (start alice) oneAfterAnother = some s ∧
      s.Serial plainHash aliceDirectory := by
  refine ⟨_, rfl, ?_⟩
  exact (serial_iff_fresh alice_valid alice_represents rfl).2.2.mpr (by decide) oneAfterAnother _
    (List.prefix_refl _) rfl

/-- The account is enabled again by the update that was to change its password. -/
theorem disable_lost :
    ∃ s, run (step plainHash) (start alice) overlapping = some s ∧
      s.log.map (·.2) = [.ok (some ⟨1, "alice", "sbc.local", false⟩),
        .ok (some ⟨1, "alice", "sbc.local", true⟩)] ∧
      s.db.rows.map (·.enabled) = [true] :=
  ⟨_, rfl, by decide, by decide⟩

end UserApi

end SbcEngine
