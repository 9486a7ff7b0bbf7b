/-
# Accounts and their passwords

Registering stores the bcrypt hash of a password, and signing in compares with it.  bcrypt reads the
first 72 bytes of what it is given.  The schemas bound passwords by 72 characters, and a character
beyond ASCII has more bytes than one: two passwords within the bound can have their first 72 bytes
in common, and then each of them opens the account of the other.
-/
import SpendLens.Schema
import SpendLens.Lib.Fallible

namespace SpendLens

/-! ## The passwords that are accepted -/

/-- A password of `POST /auth/register`. -/
structure RegisterPassword where
  password : String
  bounds : 8 ≤ password.length ∧ password.length ≤ 72

/-- A password of `POST /auth/login`. -/
structure LoginPassword where
  password : String
  bounds : 1 ≤ password.length ∧ password.length ≤ 72

/-! ## The hash -/

/-- The backend: a salt and at most 72 bytes make a text that tells the salt, and, the salt being
fixed, the bytes. -/
structure Bcrypt (Salt : Type) where
  digest : Salt → List UInt8 → String
  salt? : String → Option Salt
  salt?_digest : ∀ salt bytes, salt? (digest salt bytes) = some salt
  digest_injective : ∀ salt a b, a.length ≤ 72 → b.length ≤ 72 →
    digest salt a = digest salt b → a = b
  exists_salt : Nonempty Salt

/-- `str.encode`. -/
def utf8Bytes (s : String) : List UInt8 := s.toList.flatMap String.utf8EncodeChar

/-- What bcrypt reads of a password. -/
def readBytes (s : String) : List UInt8 := (utf8Bytes s).take 72

/-- Why nobody is registered or signed in. -/
inductive SignInError where
  | emailAlreadyRegistered
  | invalidCredentials
  | other (e : PyExc)
  deriving DecidableEq

section service

variable {Salt : Type} (B : Bcrypt Salt)

/-- `hash_password`; the library takes no password with a NUL in it. -/
def hashPassword (salt : Salt) (plain : String) : Except SignInError String :=
  if textOk plain then .ok (B.digest salt (readBytes plain))
  else .error (.other (.valueError "bcrypt does not allow NULL bytes in password"))

/-- `verify_password`. -/
def verifyPassword (plain hashed : String) : Except SignInError Bool :=
  match B.salt? hashed with
  | none => .error (.other (.valueError "hash could not be identified"))
  | some salt => (hashPassword B salt plain).map (fun hash => hash = hashed)

/-! ## The users -/

/-- A `User`, with the columns of the sign-in. -/
structure Account where
  id : UUID
  email : String
  passwordHash : String
  inboxToken : String
  deriving DecidableEq

/-- The users, under the unique index on their emails. -/
abbrev Users : Type := Table Account String Account.email

/-- A call of `create_user`, with what the defaults draw at random. -/
structure Registration (Salt : Type) where
  email : String
  password : String
  salt : Salt
  id : UUID
  inboxToken : String

variable (U : Unicode)

/-- `_normalise_email`. -/
def normaliseEmail (email : String) : String := U.lower (strip email)

/-- Does a row hold one of the unique entries of `a`? -/
def Account.conflicts (a b : Account) : Bool :=
  a.id = b.id || a.email = b.email || a.inboxToken = b.inboxToken

/-- `create_user`, with the users there are then.  A hash has 60 characters and fits its column. -/
def createUser (users : Users) (r : Registration Salt) : Except SignInError (Account × Users) := do
  let hash ← hashPassword B r.salt r.password
  let user : Account := ⟨r.id, normaliseEmail U r.email, hash, r.inboxToken⟩
  if (storeText 255 (some user.email)).isOk then
    if users.rows.any user.conflicts then .error .emailAlreadyRegistered
    else .ok (user, users.put user)
  else .error (.other .dataError)

/-- `get_user_by_email`; at most one row has the email. -/
def getUserByEmail (users : Users) (email : String) : Except SignInError (Option Account) :=
  if textOk (normaliseEmail U email) then .ok (users.get (normaliseEmail U email))
  else .error (.other .dataError)

/-- The hash of nobody's password. -/
def dummyHash : String := "$2b$12$" ++ String.ofList (List.replicate 53 'A')

/-- `authenticate`. -/
def authenticate (users : Users) (email password : String) : Except SignInError Account := do
  match ← getUserByEmail U users email with
  | none => do
      -- the answer takes as long as with an account
      let _ ← verifyPassword B password dummyHash
      .error .invalidCredentials
  | some user => do
      if ← verifyPassword B password user.passwordHash then .ok user
      else .error .invalidCredentials

/-- The users after a call; one that fails leaves them as they are. -/
def register (users : Users) (r : Registration Salt) : Users :=
  match createUser B U users r with
  | .ok p => p.2
  | .error _ => users

/-- The users after some calls, from none. -/
def usersAfter (rs : List (Registration Salt)) : Users := rs.foldl (register B U) Table.empty

/-- **Only the registered password opens an account**: one that is created with `p`, at any time,
is never opened with `q`, under any email and after any further calls. -/
def NeverOpens (email p q : String) : Prop :=
  ∀ before r later user table, r.email = email → r.password = p →
    createUser B U (usersAfter B U before) r = .ok (user, table) →
    ∀ email', authenticate B U (usersAfter B U (before ++ r :: later)) email' q ≠ .ok user

/-- The account can be created. -/
structure Registrable (email p : String) : Prop where
  stored : (storeText 255 (some (normaliseEmail U email))).isOk = true
  hashed : textOk p = true

/-- The row of a registration. -/
def Registration.user (r : Registration Salt) : Account :=
  ⟨r.id, normaliseEmail U r.email, B.digest r.salt (readBytes r.password), r.inboxToken⟩

/-! ## What the hash tells -/

variable {B U}

theorem hashPassword_eq_ok {salt : Salt} {plain hash : String} :
    hashPassword B salt plain = .ok hash ↔
      textOk plain = true ∧ B.digest salt (readBytes plain) = hash := by
  unfold hashPassword
  split
  · rename_i h
    rw [Except.ok.injEq, and_iff_right h]
  · rename_i h
    exact iff_of_false nofun (fun hboth => h hboth.1)

theorem length_readBytes (s : String) : (readBytes s).length ≤ 72 :=
  List.length_take_le 72 (utf8Bytes s)

/-- A password is verified exactly if its first 72 bytes are those of the password hashed. -/
theorem verifyPassword_digest {salt : Salt} {p q : String} :
    verifyPassword B q (B.digest salt (readBytes p)) = .ok true ↔
      textOk q = true ∧ readBytes p = readBytes q := by
  rw [verifyPassword, B.salt?_digest]
  show (hashPassword B salt q).map _ = _ ↔ _
  rw [hashPassword]
  split
  · rename_i h
    rw [and_iff_right h]
    show Except.ok (decide _) = Except.ok true ↔ _
    rw [Except.ok.injEq, decide_eq_true_iff]
    constructor
    · intro heq
      exact (B.digest_injective salt _ _ (length_readBytes q) (length_readBytes p) heq).symm
    · intro heq
      rw [heq]
  · rename_i h
    exact iff_of_false nofun (fun hboth => h hboth.1)

/-! ## What registering does -/

/-- An account is created from its password, where its entries are free. -/
theorem createUser_eq_ok {users table : Users} {r : Registration Salt} {user : Account} :
    createUser B U users r = .ok (user, table) ↔
      Registrable U r.email r.password ∧ users.rows.any (r.user B U).conflicts = false ∧
        user = r.user B U ∧ table = users.put user := by
  by_cases hhash : textOk r.password = true
  · have hashed : hashPassword B r.salt r.password = .ok (B.digest r.salt (readBytes r.password)) :=
      hashPassword_eq_ok.2 ⟨hhash, rfl⟩
    rw [createUser, hashed]
    dsimp only [bind, Except.bind]
    split
    · rename_i hstored
      rw [and_iff_right (⟨hstored, hhash⟩ : Registrable U r.email r.password)]
      split
      · rename_i htaken
        have htaken : users.rows.any (r.user B U).conflicts = true := htaken
        exact iff_of_false nofun (fun h => Bool.noConfusion (htaken.symm.trans h.1))
      · rename_i hfree
        have hfree : users.rows.any (r.user B U).conflicts = false := Bool.not_eq_true _ ▸ hfree
        rw [and_iff_right hfree]
        constructor
        · intro h
          obtain ⟨rfl, rfl⟩ := Prod.mk.inj (Except.ok.inj h)
          exact ⟨rfl, rfl⟩
        · rintro ⟨rfl, rfl⟩
          rfl
    · rename_i hstored
      exact iff_of_false nofun (fun h => hstored h.1.stored)
  · have hnul : ∀ hash, hashPassword B r.salt r.password ≠ .ok hash :=
      fun hash h => hhash (hashPassword_eq_ok.1 h).1
    refine iff_of_false (fun h => ?_) (fun h => hhash h.1.hashed)
    obtain ⟨hash, heq, -⟩ := Fallible.bind_eq_ok.1 h
    exact hnul hash heq

/-- A row that conflicts with none has an email of its own. -/
theorem get_email_of_free {users : Users} {a : Account} (h : users.rows.any a.conflicts = false) :
    users.get a.email = none := by
  rw [Table.get_eq_none_iff, List.mem_map]
  rintro ⟨b, hb, hemail⟩
  have hno := List.any_eq_false.1 h b hb
  simp only [Account.conflicts, Bool.or_eq_true, decide_eq_true_eq, not_or] at hno
  exact hno.1.2 hemail.symm

/-- A row stays what it is under its email, whatever is registered. -/
theorem get_register {users : Users} {email : String} {user : Account}
    (h : users.get email = some user) (r : Registration Salt) :
    (register B U users r).get email = some user := by
  rw [register]
  cases hcreate : createUser B U users r with
  | error e => exact h
  | ok p =>
      obtain ⟨-, hfree, huser, htable⟩ := createUser_eq_ok.1 hcreate
      show p.2.get email = some user
      rw [htable, Table.get_put, if_neg, h]
      intro hemail
      have hnone := get_email_of_free hfree
      rw [← huser, hemail, h] at hnone
      cases hnone

/-- **An account stays**: after any further calls its row is the one under its email. -/
theorem get_usersAfter {before later : List (Registration Salt)} {r : Registration Salt}
    {user : Account} {table : Users}
    (h : createUser B U (usersAfter B U before) r = .ok (user, table)) :
    (usersAfter B U (before ++ r :: later)).get (normaliseEmail U r.email) = some user := by
  obtain ⟨-, -, huser, htable⟩ := createUser_eq_ok.1 h
  have hrun : ∀ (rs : List (Registration Salt)) {users : Users},
      users.get (normaliseEmail U r.email) = some user →
        (rs.foldl (register B U) users).get (normaliseEmail U r.email) = some user := by
    intro rs
    induction rs with
    | nil => exact fun hget => hget
    | cons s rs ih => exact fun hget => ih (get_register hget s)
  rw [usersAfter, List.foldl_append, List.foldl_cons]
  apply hrun
  show (register B U (usersAfter B U before) r).get _ = _
  rw [register, h]
  show table.get _ = _
  rw [htable, Table.get_put, if_pos]
  rw [huser]
  rfl

/-! ## Which passwords open an account -/

/-- Signing in reads the row under the email and verifies its hash. -/
theorem authenticate_eq_ok {users : Users} {email q : String} {user : Account} :
    authenticate B U users email q = .ok user ↔
      textOk (normaliseEmail U email) = true ∧ users.get (normaliseEmail U email) = some user ∧
        verifyPassword B q user.passwordHash = .ok true := by
  rw [authenticate, Fallible.bind_eq_ok]
  constructor
  · rintro ⟨found, hfound, h⟩
    rw [getUserByEmail] at hfound
    split at hfound
    · rename_i htext
      obtain rfl := Except.ok.inj hfound
      split at h
      · obtain ⟨_, -, h⟩ := Fallible.bind_eq_ok.1 h
        cases h
      · rename_i user' hget
        obtain ⟨verified, hverify, h⟩ := Fallible.bind_eq_ok.1 h
        split at h
        · rename_i hverified
          obtain rfl := Except.ok.inj h
          rw [hverified] at hverify
          exact ⟨htext, hget, hverify⟩
        · cases h
    · cases hfound
  · rintro ⟨htext, hget, hverify⟩
    refine ⟨some user, ?_, ?_⟩
    · rw [getUserByEmail, if_pos htext, hget]
    · exact Fallible.bind_eq_ok.2 ⟨true, hverify, rfl⟩

theorem Registrable.textOk_email {email p : String} (h : Registrable U email p) :
    textOk (normaliseEmail U email) = true := by
  have hstored := h.stored
  simp only [storeText] at hstored
  split at hstored
  · rename_i hboth
    exact (Bool.and_eq_true _ _ ▸ hboth).1
  · cases hstored

/-- A created account is verified with the passwords that have the same first 72 bytes. -/
theorem verifyPassword_created {users table : Users} {r : Registration Salt} {user : Account}
    {q : String} (h : createUser B U users r = .ok (user, table)) :
    verifyPassword B q user.passwordHash = .ok true ↔
      textOk q = true ∧ readBytes r.password = readBytes q := by
  obtain ⟨-, -, huser, -⟩ := createUser_eq_ok.1 h
  rw [huser]
  exact verifyPassword_digest

/-- **The own password opens an account**, after any further calls. -/
theorem authenticate_own {before later : List (Registration Salt)} {r : Registration Salt}
    {user : Account} {table : Users}
    (h : createUser B U (usersAfter B U before) r = .ok (user, table)) :
    authenticate B U (usersAfter B U (before ++ r :: later)) r.email r.password = .ok user := by
  have hregistrable := (createUser_eq_ok.1 h).1
  exact authenticate_eq_ok.2 ⟨hregistrable.textOk_email, get_usersAfter h,
    (verifyPassword_created h).2 ⟨hregistrable.hashed, rfl⟩⟩

/-- A password with the same first 72 bytes opens the first account there is. -/
theorem not_neverOpens {email p q : String} (hregistrable : Registrable U email p)
    (htext : textOk q = true) (hbytes : readBytes p = readBytes q) :
    ¬NeverOpens B U email p q := by
  intro hnever
  obtain ⟨salt⟩ := B.exists_salt
  obtain ⟨r, hr⟩ : ∃ r : Registration Salt, r = ⟨email, p, salt, default, ""⟩ := ⟨_, rfl⟩
  have hemail : r.email = email := by rw [hr]
  have hpassword : r.password = p := by rw [hr]
  have hcreate : createUser B U (usersAfter B U []) r =
      .ok (r.user B U, Table.empty.put (r.user B U)) :=
    createUser_eq_ok.2 ⟨by rw [hemail, hpassword]; exact hregistrable, rfl, rfl, rfl⟩
  refine hnever [] r [] _ _ hemail hpassword hcreate r.email ?_
  refine authenticate_eq_ok.2 ⟨?_, get_usersAfter hcreate, (verifyPassword_created hcreate).2 ?_⟩
  · rw [hemail]
    exact hregistrable.textOk_email
  · rw [hpassword]
    exact ⟨htext, hbytes⟩

/-- Other first bytes, and the account stays closed. -/
theorem neverOpens_of_readBytes_ne {email p q : String} (h : readBytes p ≠ readBytes q) :
    NeverOpens B U email p q := by
  intro before r later user table _ hp hcreate email' hopen
  have hverify := (authenticate_eq_ok.1 hopen).2.2
  have hbytes := ((verifyPassword_created hcreate).1 hverify).2
  rw [hp] at hbytes
  exact h hbytes

/-- **When only the registered password opens an account**: unless the account can be created, the
other password can be hashed, and the first 72 bytes are the same. -/
theorem neverOpens_iff (B : Bcrypt Salt) (U : Unicode) (email : String) (p : RegisterPassword)
    (q : LoginPassword) :
    NeverOpens B U email p.password q.password ↔
      ¬(Registrable U email p.password ∧ textOk q.password = true ∧
        readBytes p.password = readBytes q.password) := by
  constructor
  · rintro hnever ⟨hregistrable, htext, hbytes⟩
    exact not_neverOpens hregistrable htext hbytes hnever
  · intro hdiffer before r later user table hemail hp hcreate email' hopen
    have hregistrable := (createUser_eq_ok.1 hcreate).1
    have hverify := (authenticate_eq_ok.1 hopen).2.2
    obtain ⟨htext, hbytes⟩ := (verifyPassword_created hcreate).1 hverify
    rw [hemail, hp] at hregistrable
    rw [hp] at hbytes
    exact hdiffer ⟨hregistrable, htext, hbytes⟩

end service

/-! ## Characters and bytes -/

theorem utf8Bytes_injective : Function.Injective utf8Bytes := by
  intro p q h
  have hencode : p.toList.utf8Encode = q.toList.utf8Encode := congrArg List.toByteArray h
  have hdecode := congrArg ByteArray.utf8Decode? hencode
  rw [List.utf8Decode?_utf8Encode, List.utf8Decode?_utf8Encode] at hdecode
  have hchars : p.toList = q.toList := by simpa using hdecode
  exact String.toList_inj.1 hchars

/-- Within 72 bytes everything is read. -/
theorem readBytes_ne_of_short {p q : String} (hp : (utf8Bytes p).length ≤ 72)
    (hq : (utf8Bytes q).length ≤ 72) (hne : p ≠ q) : readBytes p ≠ readBytes q := by
  rw [readBytes, readBytes, List.take_of_length_le hp, List.take_of_length_le hq]
  exact fun h => hne (utf8Bytes_injective h)

/-- Text in ASCII has as many bytes as characters. -/
theorem length_utf8Bytes_of_ascii {s : String} (h : ∀ c ∈ s.toList, c.toNat < 128) :
    (utf8Bytes s).length = s.length := by
  have hone : ∀ c ∈ s.toList, (String.utf8EncodeChar c).length = 1 := by
    intro c hc
    rw [String.length_utf8EncodeChar, Char.utf8Size_eq_one_iff, UInt32.le_iff_toNat_le]
    exact Nat.le_of_lt_succ (h c hc)
  rw [utf8Bytes, List.length_flatMap, List.map_congr_left hone, List.map_const',
    List.sum_replicate_nat, Nat.mul_one, String.length_toList]

/-- **For passwords in ASCII the bound on the characters does what it is for.** -/
theorem neverOpens_ascii {Salt : Type} (B : Bcrypt Salt) (U : Unicode) (email : String)
    {p : RegisterPassword} {q : LoginPassword} (hp : ∀ c ∈ p.password.toList, c.toNat < 128)
    (hq : ∀ c ∈ q.password.toList, c.toNat < 128) (hne : p.password ≠ q.password) :
    NeverOpens B U email p.password q.password := by
  apply neverOpens_of_readBytes_ne
  apply readBytes_ne_of_short
  · rw [length_utf8Bytes_of_ascii hp]
    exact p.bounds.2
  · rw [length_utf8Bytes_of_ascii hq]
    exact q.bounds.2
  · exact hne

/-! ## Two passwords of one account -/

/-- A backend that keeps its salt, a letter, and its bytes legible. -/
def legibleBcrypt : Bcrypt Char where
  digest salt bytes := String.ofList (salt :: bytes.map (fun b => Char.ofNat b.toNat))
  salt? hash := hash.toList.head?
  salt?_digest salt bytes := by rw [String.toList_ofList]; rfl
  digest_injective salt a b _ _ h := by
    have hbytes := (List.cons.inj (String.ofList_injective h)).2
    refine List.map_injective_iff.2 (fun x y hxy => ?_) hbytes
    have hback : ∀ x : Fin 256, (Char.ofNat x).toNat = x := by decide +kernel
    have hnat := congrArg Char.toNat hxy
    have hx := hback x.toFin
    have hy := hback y.toFin
    exact UInt8.toNat_inj.1 (hx.symm.trans (hnat.trans hy))
  exists_salt := ⟨'s'⟩

/-- 36 letters of two bytes, and a digit behind them. -/
def accented (digit : Char) : String := String.ofList (List.replicate 36 'é' ++ [digit])

def registered : RegisterPassword := ⟨accented '1', by decide⟩

def mistaken : LoginPassword := ⟨accented '2', by decide⟩

/-- Another password of 37 characters opens the account. -/
theorem not_neverOpens_accented : registered.password ≠ mistaken.password ∧
    ¬NeverOpens legibleBcrypt .ascii "ann@example.com" registered.password mistaken.password := by
  refine ⟨by decide, not_neverOpens ⟨?_, ?_⟩ ?_ ?_⟩
  · decide +kernel
  · decide +kernel
  · decide +kernel
  · decide +kernel

end SpendLens
