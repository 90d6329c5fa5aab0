import DatabaseGateway.Proofs.Link.Parameters
import DatabaseGateway.Proofs.Link.Replies

/-!
What the gateway tells a Redis server when it logs in, and again when it brings a session back.

A server reads a command as a row of strings, each behind its length in bytes (`Redis.Reads`). So no
string ends early or adds a command, whatever is in it, and what is sent is read as the commands of
the login and nothing else.
-/

namespace DatabaseGateway

variable {σ : Type}

namespace Text

def ascii (b : UInt8) : Char := Char.ofNat b.toNat

theorem isDigit_iff {c : Char} : isDigit c = true ↔ c.isDigit = true := by
  simp [isDigit, Char.isDigit, Char.le_def]

theorem utf8EncodeChar_digit {c : Char} (hdigit : isDigit c = true) :
    ∃ b, String.utf8EncodeChar c = [b] ∧ ascii b = c := by
  simp only [isDigit, Bool.and_eq_true, decide_eq_true_eq, Char.le_def,
    UInt32.le_iff_toNat_le] at hdigit
  have hsmall : c.val.toNat ≤ 57 := hdigit.2
  have hsize : c.utf8Size = 1 :=
    Char.utf8Size_eq_one_iff.2 (UInt32.le_iff_toNat_le.2 (Nat.le_trans hsmall (by decide)))
  have hcode : c.val.toUInt8.toNat = c.toNat := by
    rw [UInt32.toNat_toUInt8]
    exact Nat.mod_eq_of_lt (by omega)
  exact ⟨_, String.utf8EncodeChar_eq_singleton hsize, by rw [ascii, hcode, Char.ofNat_toNat]⟩

theorem decimalValue_toDigits (n : Nat) : decimalValue (Nat.toDigits 10 n) = n := by
  have hfold (cs : List Char) (start : Nat) :
      valueFrom 10 start (cs.map digitValue) = Nat.ofDigitChars 10 cs start := by
    induction cs generalizing start with
    | nil => simp [valueFrom]
    | cons c cs ih =>
        rw [Nat.ofDigitChars_cons, ← ih, Nat.mul_comm]
        rfl
  rw [decimalValue, hfold, Nat.ofDigitChars_ten_toDigits]

theorem isDigit_of_mem_toDigits {n : Nat} {c : Char} (hmem : c ∈ Nat.toDigits 10 n) :
    isDigit c = true :=
  isDigit_iff.2 (Nat.isDigit_of_mem_toDigits (by decide) (by decide) hmem)

theorem map_ascii_encode_toString (n : Nat) :
    (encode (toString n)).map ascii = Nat.toDigits 10 n := by
  have hchars : encode (toString n) = (Nat.toDigits 10 n).flatMap String.utf8EncodeChar := by
    rw [encode, String.toUTF8, ← String.utf8Encode_toList, List.utf8Encode]
    simp
  have heach (cs : List Char) (hdigits : ∀ c ∈ cs, isDigit c = true) :
      (cs.flatMap String.utf8EncodeChar).map ascii = cs := by
    induction cs with
    | nil => rfl
    | cons c cs ih =>
        obtain ⟨hdigit, hdigits⟩ := List.forall_mem_cons.1 hdigits
        obtain ⟨b, hbyte, hsame⟩ := utf8EncodeChar_digit hdigit
        rw [List.flatMap_cons, hbyte, List.singleton_append, List.map_cons, hsame, ih hdigits]
  rw [hchars, heach _ fun c => isDigit_of_mem_toDigits]

/-- An unsigned numeral is a row of digits, which may stand behind a plus sign. -/
theorem unsigned?_eq_some_iff {bound n : Nat} {cs : List Char} :
    unsigned? bound cs = some n ↔ ∃ digits, (cs = digits ∨ cs = '+' :: digits) ∧ digits ≠ [] ∧
      digits.all isDigit ∧ decimalValue digits = n ∧ n < bound := by
  unfold unsigned?
  split
  · next cs =>
      rw [digits?_eq_some_iff]
      constructor
      · exact fun hown => ⟨cs, .inr rfl, hown⟩
      · rintro ⟨digits, rfl | hown, hsome, hall, hvalue⟩
        · rw [List.all_cons] at hall
          exact absurd hall (by simp [isDigit])
        · cases hown
          exact ⟨hsome, hall, hvalue⟩
  · next hunsigned =>
      rw [digits?_eq_some_iff]
      constructor
      · exact fun hown => ⟨_, .inl rfl, hown⟩
      · rintro ⟨digits, rfl | hown, hrest⟩
        · exact hrest
        · exact absurd hown (hunsigned digits)

end Text

namespace Redis

open Text

/-! ### Reading commands -/

def readNumber (bytes : Bytes) : Option (Nat × Bytes) :=
  let digits := bytes.takeWhile fun b => isDigit (ascii b)
  match bytes.dropWhile fun b => isDigit (ascii b) with
  | 13 :: 10 :: rest => if digits = [] then none else some (decimalValue (digits.map ascii), rest)
  | _ => none

def readString : Bytes → Option (Bytes × Bytes)
  | 36 :: bytes => do
    let (length, rest) ← readNumber bytes
    match rest.drop length with
    | 13 :: 10 :: behind => some (rest.take length, behind)
    | _ => none
  | _ => none

def readStrings : Nat → Bytes → Option (List Bytes × Bytes)
  | 0, bytes => some ([], bytes)
  | n + 1, bytes => do
    let (arg, rest) ← readString bytes
    let (args, behind) ← readStrings n rest
    some (arg :: args, behind)

def readCommand : Bytes → Option (List Bytes × Bytes)
  | 42 :: bytes => do
    let (n, rest) ← readNumber bytes
    readStrings n rest
  | _ => none

/-- Bytes are read as commands, one after the other, with nothing left over. -/
inductive Reads : Bytes → List (List Bytes) → Prop
  | nil : Reads [] []
  | cons {bytes rest : Bytes} {args : List Bytes} {commands : List (List Bytes)}
      (first : readCommand bytes = some (args, rest)) (later : Reads rest commands) :
      Reads bytes (args :: commands)

section Reads

variable {rest : Bytes}

theorem readNumber_encode (n : Nat) :
    readNumber (encode (toString n) ++ lineEnd ++ rest) = some (n, rest) := by
  have hspelled := map_ascii_encode_toString n
  have hdigits : ∀ b ∈ encode (toString n), isDigit (ascii b) = true := by
    intro b hmem
    have hmem := List.mem_map_of_mem (f := ascii) hmem
    rw [hspelled] at hmem
    exact isDigit_of_mem_toDigits hmem
  have hsome : encode (toString n) ≠ [] := by
    intro hnone
    rw [hnone] at hspelled
    exact Nat.toDigits_ne_nil hspelled.symm
  have htaken : (encode (toString n) ++ lineEnd ++ rest).takeWhile (fun b => isDigit (ascii b)) =
      encode (toString n) := by
    rw [List.append_assoc, List.takeWhile_append_of_pos hdigits]
    exact List.append_nil _
  have hleft : (encode (toString n) ++ lineEnd ++ rest).dropWhile (fun b => isDigit (ascii b)) =
      13 :: 10 :: rest := by
    rw [List.append_assoc, List.dropWhile_append_of_pos hdigits]
    rfl
  simp only [readNumber, htaken, hleft, hsome, if_false, hspelled, decimalValue_toDigits]

def spelled (s : String) : Bytes :=
  encode ("$" ++ toString (encode s).length) ++ lineEnd ++ encode s ++ lineEnd

theorem command_eq (args : List String) :
    command args = encode ("*" ++ toString args.length) ++ lineEnd ++ args.flatMap spelled := rfl

theorem readString_spelled (s : String) :
    readString (spelled s ++ rest) = some (encode s, rest) := by
  have hmark : encode "$" = [36] := rfl
  have hbytes : spelled s ++ rest =
      36 :: (encode (toString (encode s).length) ++ lineEnd ++ (encode s ++ lineEnd ++ rest)) := by
    simp only [spelled, encode_append, hmark, List.append_assoc, List.cons_append, List.nil_append]
  have hbehind : (encode s ++ lineEnd ++ rest).drop (encode s).length = 13 :: 10 :: rest := by
    rw [List.append_assoc, List.drop_left]
    rfl
  have hfront : (encode s ++ lineEnd ++ rest).take (encode s).length = encode s := by
    rw [List.append_assoc, List.take_left]
  rw [hbytes, readString, readNumber_encode]
  simp only [Option.bind_eq_bind, Option.bind_some, hbehind, hfront]

theorem readStrings_spelled (args : List String) :
    readStrings args.length (args.flatMap spelled ++ rest) = some (args.map encode, rest) := by
  induction args with
  | nil => rfl
  | cons arg args ih =>
      rw [List.flatMap_cons, List.append_assoc, List.length_cons, readStrings, readString_spelled]
      simp only [Option.bind_eq_bind, Option.bind_some, ih, List.map_cons]

theorem readCommand_command (args : List String) :
    readCommand (command args ++ rest) = some (args.map encode, rest) := by
  have hmark : encode "*" = [42] := rfl
  have hbytes : command args ++ rest =
      42 :: (encode (toString args.length) ++ lineEnd ++ (args.flatMap spelled ++ rest)) := by
    simp only [command_eq, encode_append, hmark, List.append_assoc, List.cons_append,
      List.nil_append]
  rw [hbytes, readCommand, readNumber_encode]
  simp only [Option.bind_eq_bind, Option.bind_some, readStrings_spelled]

/-- Bytes are read in one way at most. -/
theorem Reads.unique {bytes : Bytes} {commands commands' : List (List Bytes)}
    (hreads : Reads bytes commands) (hreads' : Reads bytes commands') : commands = commands' := by
  induction hreads generalizing commands' with
  | nil =>
      cases hreads' with
      | nil => rfl
      | cons hfirst _ => cases hfirst
  | cons hfirst _ ih =>
      cases hreads' with
      | nil => cases hfirst
      | cons hfirst' hlater' =>
          cases hfirst.symm.trans hfirst'
          rw [ih hlater']

/-- Commands are read as what they are. -/
theorem reads_commands_iff (commands : List (List String)) (read : List (List Bytes)) :
    Reads (commands.map command).flatten read ↔ read = commands.map (List.map encode) := by
  have hown : Reads (commands.map command).flatten (commands.map (List.map encode)) := by
    induction commands with
    | nil => exact .nil
    | cons args commands ih => exact .cons (readCommand_command args) ih
  exact ⟨fun hreads => hreads.unique hown, fun hsame => hsame ▸ hown⟩

end Reads

/-! ### Sending commands -/

section Sends

variable (t : Transport σ) {w w' : σ × List Bytes} {l : Login}

/-- A read on a stream with a record is a read on the stream and leaves the record alone. -/
theorem readLineFrom_recorded (line : Bytes) (world : σ) (log : List Bytes) :
    readLineFrom t.recorded line (world, log) =
      ((readLineFrom t line world).1, (readLineFrom t line world).2, log) := by
  fun_induction readLineFrom t line world with
  | case1 line world hends => rw [readLineFrom, if_pos hends]
  | case2 line world hgoesOn hmuch => rw [readLineFrom, if_neg hgoesOn, if_pos hmuch]
  | case3 line world hgoesOn hfew e world' hheard =>
      rw [readLineFrom, if_neg hgoesOn, if_neg hfew]
      simp only [Transport.recorded, hheard]
  | case4 line world hgoesOn hfew world' hheard =>
      rw [readLineFrom, if_neg hgoesOn, if_neg hfew]
      simp only [Transport.recorded, hheard]
  | case5 line world hgoesOn hfew b bs world' hheard ih =>
      rw [readLineFrom, if_neg hgoesOn, if_neg hfew]
      have hheard : t.recorded.recv lineBound (world, log) = (.ok (b :: bs), world', log) := by
        simp only [Transport.recorded, hheard]
      simp only [hheard]
      exact ih

theorem exchange_recorded (request : Bytes) (world : σ) (log : List Bytes) :
    exchange t.recorded request (world, log) =
      ((exchange t request world).1, (exchange t request world).2, log ++ [request]) := by
  have hsent : t.recorded.send request (world, log) =
    ((t.send request world).1, (t.send request world).2, log ++ [request]) := rfl
  simp only [exchange, hsent]
  rcases t.send request world with ⟨_ | _, world'⟩
  · rfl
  · exact readLineFrom_recorded t [] world' _

theorem expectOk_recorded (request : Bytes) (refusal : String → GatewayError) (world : σ)
    (log : List Bytes) :
    expectOk t.recorded request refusal (world, log) = ((expectOk t request refusal world).1,
      (expectOk t request refusal world).2, log ++ [request]) := by
  simp only [expectOk, exchange_recorded]
  rcases exchange t request world with ⟨_ | reply, world'⟩
  · rfl
  · dsimp only
    split <;> rfl

theorem auth_eq (user password : String) : auth user password = command
    (if user = "" ∨ user = "default" then ["AUTH", password] else ["AUTH", user, password]) := by
  simp only [auth, Bool.or_eq_true, decide_eq_true_eq]
  split <;> rfl

variable {t}

/-- A login that succeeds sends its commands and nothing else. -/
theorem log_of_logIn (hran : logIn t.recorded l w = (.ok (), w')) :
    w'.2 = w.2 ++ l.commands.map command := by
  have hpresents : (present t.recorded l w).2.2 =
      w.2 ++ l.password.toList.map (auth l.user) := by
    unfold present
    split <;> next hgiven => simp [hgiven, expectOk_recorded t _ _ w.1 w.2]
  have hselects (w : σ × List Bytes) : (select t.recorded l w).2.2 =
      w.2 ++ l.index.toList.map fun index => command ["SELECT", toString index] := by
    unfold select
    split <;> next hgiven => simp [hgiven, expectOk_recorded t _ _ w.1 w.2]
  have hcommands : l.commands.map command = l.password.toList.map (auth l.user) ++
      l.index.toList.map fun index => command ["SELECT", toString index] := by
    rw [funext (auth_eq l.user)]
    simp only [Login.commands, List.map_append, List.map_map, Function.comp_def]
  unfold logIn at hran
  split at hran
  · cases hran
  · next w₁ hpresented =>
      have hlast := hselects w₁
      rw [hpresented] at hpresents
      rw [hran, hpresents] at hlast
      rw [hlast, hcommands, List.append_assoc]

/-- A reset that succeeds sends its own command and those of the login. -/
theorem log_of_reset {authenticated : Bool} {timeout : Duration}
    (hpassed : Link.reset t.recorded timeout w (.redis authenticated l) = (true, w')) :
    w'.2 = w.2 ++ Text.encode "RESET\r\n" :: l.commands.map command := by
  obtain ⟨w₁, w₂, hreplied, hran, rfl⟩ := exists_of_reset hpassed
  have hlog : w₁.2 = w.2 ++ [Text.encode "RESET\r\n"] :=
    (congrArg (·.2.2) (hreplied.symm.trans (exchange_recorded t _ _ _)) :)
  have hlater := log_of_logIn hran
  rw [hlog, List.append_assoc] at hlater
  exact hlater

end Sends

/-- The text denotes the number: it is empty and the number is zero, or it is a numeral in decimal
of 32 bits. -/
def Denotes (database : String) (n : Nat) : Prop :=
  database = "" ∧ n = 0 ∨ ∃ digits, (database.toList = digits ∨ database.toList = '+' :: digits) ∧
    digits ≠ [] ∧ digits.all isDigit ∧ decimalValue digits = n ∧ n < UInt32.size

theorem denotes_iff {database : String} {n : Nat} :
    Denotes database n ↔
      database = "" ∧ n = 0 ∨ unsigned? UInt32.size database.toList = some n := by
  rw [unsigned?_eq_some_iff]
  rfl

/-- The name of a database is accepted if it denotes a number. -/
theorem selectIndex_eq_ok_iff {database : String} {index : Option Nat} :
    selectIndex database = .ok index ↔
      ∃ n, Denotes database n ∧ index = if n = 0 then none else some n := by
  simp only [denotes_iff]
  unfold selectIndex
  split
  · next hempty =>
      subst hempty
      have hnone : unsigned? UInt32.size [] = none := rfl
      simp [hnone, eq_comm]
  · next hsome =>
      cases unsigned? UInt32.size database.toList <;> simp [hsome, eq_comm]

end Redis

/-- A login that succeeds sends commands that are read as those of the login and nothing else,
whatever is in the name of the user and in the password: the password is presented if there is one,
and the database is selected if its number is not zero. Whenever the session is brought back
successfully later, the same is sent again behind the command for that. -/
theorem login_commands_read (t : Transport σ) (key : PoolKey) (password : Option String)
    {link : Link} {w w' : σ × List Bytes}
    (hopened : Link.openRedis t.recorded key password w = (.ok link, w')) :
    ∃ n sent, Redis.Denotes key.database n ∧ w'.2 = w.2 ++ sent ∧
      (∀ read, Redis.Reads sent.flatten read ↔
        read = (Redis.Login.commands ⟨key.user, password, if n = 0 then none else some n⟩).map
          (List.map Text.encode)) ∧
      ∀ timeout v v', Link.reset t.recorded timeout v link = (true, v') →
        v'.2 = v.2 ++ Text.encode "RESET\r\n" :: sent := by
  unfold Link.openRedis at hopened
  split at hopened
  · cases hopened
  · next index hselected =>
      obtain ⟨n, hdenotes, rfl⟩ := Redis.selectIndex_eq_ok_iff.1 hselected
      rcases hran : Redis.logIn t.recorded ⟨key.user, password, if n = 0 then none else some n⟩ w
        with ⟨_ | _, w₁⟩
      · simp only [hran, Except.map] at hopened
        cases hopened
      · simp only [hran, Except.map] at hopened
        cases hopened
        exact ⟨n, _, hdenotes, Redis.log_of_logIn hran, Redis.reads_commands_iff _,
          fun timeout v v' hpassed => Redis.log_of_reset hpassed⟩

namespace Redis.Replies

theorem expectOk_recorded_ok (request : Bytes) (refusal : String → GatewayError)
    (pieces log : List Bytes) :
    expectOk (accepting.fed none).recorded request refusal (((), ok :: pieces), log) =
      (.ok (), ((), pieces), log ++ [request]) := by
  have hends : lineEnd <:+ ok := by decide
  have hgood : (Text.encode "+OK").isPrefixOf ok := by decide
  rw [expectOk_recorded, expectOk_piece none request refusal hends, if_pos hgood]

theorem reset_recorded {authenticated : Bool} {l : Login} {pieces log : List Bytes}
    {w' : (Unit × List Bytes) × List Bytes} (timeout : Duration)
    (hlogIn : logIn (accepting.fed none).recorded l
      (((), pieces), log ++ [Text.encode "RESET\r\n"]) = (.ok (), w')) :
    Link.reset (accepting.fed none).recorded timeout (((), reset :: pieces), log)
      (.redis authenticated l) = (true, w') := by
  have hreplied : exchange (accepting.fed none).recorded (Text.encode "RESET\r\n")
      (((), reset :: pieces), log) =
        (.ok reset, ((), pieces), log ++ [Text.encode "RESET\r\n"]) := by
    rw [exchange_recorded, exchange_piece none _ (by decide)]
  exact reset_of_exchange timeout (fun _ _ => rfl) hreplied hlogIn

end Redis.Replies

open Redis Replies in
/-- A password that is written like commands is a password, and nothing of it is read as one. It is
presented again when the session is brought back. -/
theorem login_commands_read_hostile :
    let t := (accepting.fed none).recorded
    let key : PoolKey := ⟨.redis, "cache", 6379, "+3", "app"⟩
    let password := "é\r\n*1\r\n$8\r\nFLUSHALL\r\n"
    ∃ link w' v',
      Link.openRedis t key (some password) (((), [ok, ok, reset, ok, ok]), []) = (.ok link, w') ∧
        Link.reset t (.ofMillis 50) w' link = (true, v') ∧
        (∀ read, Reads w'.2.flatten read ↔
          read = [["AUTH", "app", password], ["SELECT", "3"]].map (List.map Text.encode)) ∧
        v'.2 = w'.2 ++ Text.encode "RESET\r\n" :: w'.2 := by
  intro t key password
  let login : Login := ⟨"app", some password, some 3⟩
  have hselected : selectIndex "+3" = .ok (some 3) := rfl
  have hlogIn (pieces log : List Bytes) : logIn t login (((), ok :: ok :: pieces), log) =
      (.ok (), ((), pieces), log ++ [auth "app" password] ++ [command ["SELECT", "3"]]) := by
    simp only [logIn, present, select, login, t, expectOk_recorded_ok]
    rfl
  obtain ⟨w', hopened, hpieces⟩ : ∃ w',
      Link.openRedis t key (some password) (((), [ok, ok, reset, ok, ok]), []) =
        (.ok (.redis true login), w') ∧ w'.1 = ((), [reset, ok, ok]) := by
    simp only [Link.openRedis, key, hselected]
    rw [hlogIn]
    exact ⟨_, rfl, rfl⟩
  obtain ⟨v', hreset⟩ : ∃ v', Link.reset t (.ofMillis 50) w' (.redis true login) = (true, v') := by
    obtain ⟨w, log⟩ := w'
    obtain rfl : w = ((), [reset, ok, ok]) := hpieces
    exact ⟨_, reset_recorded _ (hlogIn _ _)⟩
  obtain ⟨n, sent, hdenotes, hlog, hreads, hresets⟩ :=
    login_commands_read (accepting.fed none) key _ hopened
  have hindex : (if n = 0 then none else some n) = some 3 :=
    Except.ok.inj ((selectIndex_eq_ok_iff.2 ⟨n, hdenotes, rfl⟩).symm.trans hselected)
  rw [hindex] at hreads
  obtain rfl : w'.2 = sent := hlog
  exact ⟨_, w', v', hopened, hreset, hreads, hresets _ _ _ hreset⟩

end DatabaseGateway
