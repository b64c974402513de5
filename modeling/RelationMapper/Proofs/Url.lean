import RelationMapper.Proofs.Except
import RelationMapper.Proofs.Number.Numeral
import RelationMapper.Proofs.Options
import RelationMapper.Proofs.Text.Percent
import RelationMapper.Url

/-!
# Addresses told apart

How much of an address can be read off its text. The driver, the user and the password can always be told
(`Url.text_eq_text_iff`): the last two are encoded, so the signs between the parts are the first of their kind. What follows
the user is written as it is. A host without a slash still ends where the port or the database begins, but a database may
look like one with a timeout behind it: `Url.text_eq_text_iff_of_hostsTold` says that this is the only way in which different
addresses with such hosts, or with one host, are written alike.

All of this is about the addresses that options stand for (`Url.Proper`, `Url.ofOptions_proper`).
-/

namespace RelationMapper

open Number Text

/-! ## Separators -/

section

variable {c : Char} {x y z w : List Char} {p q : Option (List Char)}

/-- What stands before the first separator is told apart from what follows it. -/
theorem append_cons_inj_of_first (hx : c ∉ x) (hy : c ∉ y) (h : x ++ c :: z = y ++ c :: w) : x = y ∧ z = w := by
  induction x generalizing y with
  | nil =>
    cases y with
    | nil => exact ⟨rfl, (List.cons.inj h).2⟩
    | cons d y => exact absurd (List.cons.inj h).1 (List.ne_of_not_mem_cons hy)
  | cons d x ih =>
    cases y with
    | nil => exact absurd (List.cons.inj h).1.symm (List.ne_of_not_mem_cons hx)
    | cons e y =>
      obtain ⟨rfl, hrest⟩ := List.cons.inj h
      obtain ⟨rfl, hz⟩ := ih (List.not_mem_of_not_mem_cons hx) (List.not_mem_of_not_mem_cons hy) hrest
      exact ⟨rfl, hz⟩

/-- What follows the last separator is told apart from what stands before it. -/
theorem append_cons_inj_of_last (hz : c ∉ z) (hw : c ∉ w) (h : x ++ c :: z = y ++ c :: w) : x = y ∧ z = w := by
  have hreverse : z.reverse ++ c :: x.reverse = w.reverse ++ c :: y.reverse := by
    simpa using congrArg List.reverse h
  obtain ⟨hz, hx⟩ := append_cons_inj_of_first (by simpa using hz) (by simpa using hw) hreverse
  exact ⟨List.reverse_inj.mp hx, List.reverse_inj.mp hz⟩

/-- A part that may be missing, after the separator in front of it. -/
def trailing (c : Char) (part : Option (List Char)) : List Char := (part.map (c :: ·)).getD []

/-- The first separator shows whether a part follows, and which one. -/
theorem append_trailing_inj (hx : c ∉ x) (hy : c ∉ y) (h : x ++ trailing c p = y ++ trailing c q) : x = y ∧ p = q := by
  cases p with
  | none =>
    cases q with
    | none => exact ⟨List.append_inj_left' h rfl, rfl⟩
    | some w => exact absurd (h ▸ List.mem_append_right y List.mem_cons_self) (by simpa [trailing] using hx)
  | some z =>
    cases q with
    | none => exact absurd (h ▸ List.mem_append_right x List.mem_cons_self) (by simpa [trailing] using hy)
    | some w =>
      obtain ⟨hx, hz⟩ := append_cons_inj_of_first hx hy h
      exact ⟨hx, congrArg some hz⟩

theorem mem_trailing {d : Char} (h : d ∈ trailing c p) : d = c ∨ ∃ z, p = some z ∧ d ∈ z := by
  cases p with
  | none => cases h
  | some z => exact (List.mem_cons.mp h).imp_right fun hd => ⟨z, rfl, hd⟩

end

namespace Url

/-! ## Encoded parts -/

theorem plain_safe : Plain [' ', '+'] ∧ Plain [' '] := by simp [Plain]

/-- Only the same texts are encoded alike. -/
theorem encodePart_injective : Function.Injective encodePart := by
  intro s s' h
  have hencoded := String.ofList_injective h
  rw [← String.toList_inj, ← percentDecode_percentEncode plain_safe.1 s.toList, hencoded,
    percentDecode_percentEncode plain_safe.1]

/-- A separator is encoded in a user or password. -/
theorem not_mem_encodePart {c : Char} (hc : c ∉ ['%', ' ', '+']) (hu : isUnreserved c = false) (s : String) :
    c ∉ (encodePart s).toList := by
  intro h
  rw [encodePart, String.toList_ofList] at h
  rcases mem_percentEncode h with rfl | h | h
  · exact hc List.mem_cons_self
  · exact absurd h (by simp [hu])
  · exact hc (List.mem_cons_of_mem _ h)

/-- A parameter is read with a space for a plus sign. -/
theorem percentDecode_encodeParameter (s : String) :
    percentDecode ((encodeParameter s).toList.map fun c => if c = '+' then ' ' else c) = s.toList := by
  have noPlus : ∀ c ∈ percentEncode [' '] s.toList, c ≠ '+' := by
    rintro c hc rfl
    exact absurd (mem_percentEncode hc) (by decide)
  have hback : (percentEncode [' '] s.toList).map
      ((fun c => if c = '+' then ' ' else c) ∘ fun c => if c = ' ' then '+' else c) = percentEncode [' '] s.toList := by
    refine (List.map_congr_left fun c hc => ?_).trans (List.map_id _)
    by_cases hspace : c = ' '
    · subst hspace
      rfl
    · simp [hspace, noPlus c hc]
  rw [encodeParameter, String.toList_ofList, List.map_map, hback, percentDecode_percentEncode plain_safe.2]

theorem encodeParameter_injective : Function.Injective encodeParameter := fun s s' h => by
  rw [← String.toList_inj, ← percentDecode_encodeParameter s, h, percentDecode_encodeParameter]

/-- A parameter has no question mark. -/
theorem question_not_mem_encodeParameter (s : String) : '?' ∉ (encodeParameter s).toList := by
  intro h
  rw [encodeParameter, String.toList_ofList] at h
  obtain ⟨c, hc, hq⟩ := List.mem_map.mp h
  split at hq
  · exact absurd hq (by decide)
  · subst hq
    exact absurd (mem_percentEncode hc) (by decide)

/-- The name of the parameter stays as it is. -/
theorem encodeParameter_connectTimeout : encodeParameter "connect_timeout" = "connect_timeout" := by decide +kernel

/-! ## Addresses that options stand for -/

/-- The address of a MySQL database. -/
def mysql (username : String) (password : Option String) (host : String) (port : Option Int) (database : String)
    (timeout : Option String) : Url :=
  ⟨"mysql+pymysql", some username, (password.map Value.text).getD .null, some host, port, some database,
    (timeout.map fun t => ("connect_timeout", t)).toList⟩

/-- The address of an SQLite database. -/
def sqlite (database : String) : Url := ⟨"sqlite", none, .null, none, none, some database, []⟩

/-- The addresses that options stand for. -/
inductive Proper : Url → Prop where
  | mysql (username : String) (password : Option String) (host : String) (port : Option Int) (database : String)
      (timeout : Option String) : Proper (.mysql username password host port database timeout)
  | sqlite (database : String) : Proper (.sqlite database)

/-- What follows the user of an address in writing: where the database is, and the parameters. -/
def place (u : Url) : String :=
  let host := (u.host.map fun h => if h.toList.contains ':' then "[" ++ h ++ "]" else h).getD ""
  let port := (u.port.map fun p => ":" ++ intText p).getD ""
  let database := (u.database.map ("/" ++ ·)).getD ""
  let parameters := u.query.map fun (name, value) => encodeParameter name ++ "=" ++ encodeParameter value
  host ++ port ++ database ++ if parameters.isEmpty then "" else "?" ++ "&".intercalate parameters

theorem text_eq (u : Url) : u.text = u.driver ++ "://" ++ u.credentials ++ u.place := by
  simp only [text, place, String.append_assoc]

section

variable (username : String) (password : Option String) (host : String) (port : Option Int) (database : String)
  (timeout : Option String)

/-- The user and the password in writing. -/
def loginText : List Char := (encodePart username).toList ++ trailing ':' (password.map fun s => (encodePart s).toList)

/-- The host in writing. -/
def hostText : List Char := if ':' ∈ host.toList then '[' :: (host.toList ++ [']']) else host.toList

/-- The port in writing. -/
def portText : List Char := trailing ':' (port.map fun n => (intText n).toList)

/-- The timeout in writing. -/
def timeoutText : List Char :=
  trailing '?' (timeout.map fun t => "connect_timeout=".toList ++ (encodeParameter t).toList)

theorem toList_credentials :
    (mysql username password host port database timeout).credentials.toList = loginText username password ++ ['@'] := by
  cases password <;> simp [mysql, credentials, loginText, trailing, Value.spelled]

theorem toList_place :
    (mysql username password host port database timeout).place.toList =
      hostText host ++ portText port ++ '/' :: (database.toList ++ timeoutText timeout) := by
  cases port <;> cases timeout <;> by_cases h : ':' ∈ host.toList <;>
    simp [mysql, place, trailing, hostText, portText, timeoutText, encodeParameter_connectTimeout,
      String.intercalate_singleton, h]

end

/-! ## What is read off an address -/

/-- The driver of an address has no colon. -/
theorem Proper.colon_not_mem_driver {u : Url} (h : u.Proper) : ':' ∉ u.driver.toList := by
  cases h <;> simp [Url.mysql, Url.sqlite]

/-- A database on a server and one in a file have different drivers. -/
theorem driver_mysql_ne_sqlite {username : String} {password : Option String} {host : String} {port : Option Int}
    {database : String} {timeout : Option String} {file : String} :
    (mysql username password host port database timeout).driver ≠ (sqlite file).driver := by
  simp [mysql, sqlite]

/-- No sign around the parts is part of a user and a password. -/
theorem sign_not_mem_loginText (username : String) (password : Option String) : '@' ∉ loginText username password := by
  have clear (s : String) : '@' ∉ (encodePart s).toList := not_mem_encodePart (by decide) (by decide) s
  intro h
  rcases List.mem_append.mp h with h | h
  · exact clear username h
  · obtain hc | ⟨z, hz, h⟩ := mem_trailing h
    · exact absurd hc (by decide)
    · obtain ⟨s, -, rfl⟩ := Option.map_eq_some_iff.mp hz
      exact clear s h

/-- Only the same user and password are written alike. -/
theorem loginText_inj {username username' : String} {password password' : Option String}
    (h : loginText username password = loginText username' password') : username = username' ∧ password = password' := by
  have colon (s : String) : ':' ∉ (encodePart s).toList := not_mem_encodePart (by decide) (by decide) s
  have injective : Function.Injective fun s => (encodePart s).toList :=
    fun _ _ h => encodePart_injective (String.toList_inj.mp h)
  obtain ⟨hname, hpassword⟩ := append_trailing_inj (colon _) (colon _) h
  exact ⟨injective hname, Option.map_injective injective hpassword⟩

/-- Two addresses are written alike exactly if they agree in driver, user and password, and in their places in writing. -/
theorem text_eq_text_iff {u v : Url} (hu : u.Proper) (hv : v.Proper) :
    u.text = v.text ↔
      u.driver = v.driver ∧ u.username = v.username ∧ u.password = v.password ∧ u.place = v.place := by
  constructor
  · intro h
    have hchars : u.driver.toList ++ ':' :: ("//".toList ++ (u.credentials.toList ++ u.place.toList)) =
        v.driver.toList ++ ':' :: ("//".toList ++ (v.credentials.toList ++ v.place.toList)) := by
      simpa [text_eq] using congrArg String.toList h
    obtain ⟨hdriver, hrest⟩ := append_cons_inj_of_first hu.colon_not_mem_driver hv.colon_not_mem_driver hchars
    have hrest := List.append_cancel_left hrest
    cases hu with
    | mysql =>
      cases hv with
      | mysql =>
        rw [toList_credentials, toList_credentials, List.append_assoc, List.append_assoc] at hrest
        obtain ⟨hlogin, hplace⟩ :=
          append_cons_inj_of_first (sign_not_mem_loginText _ _) (sign_not_mem_loginText _ _) hrest
        obtain ⟨rfl, rfl⟩ := loginText_inj hlogin
        exact ⟨rfl, rfl, rfl, String.toList_inj.mp hplace⟩
      | sqlite => exact absurd (String.toList_inj.mp hdriver) driver_mysql_ne_sqlite
    | sqlite =>
      cases hv with
      | mysql => exact absurd (String.toList_inj.mp hdriver).symm driver_mysql_ne_sqlite
      | sqlite => exact ⟨rfl, rfl, rfl, String.toList_inj.mp hrest⟩
  · rintro ⟨hdriver, husername, hpassword, hplace⟩
    simp only [text_eq, credentials, hdriver, husername, hpassword, hplace]

/-! ## What is read off a place -/

/-- No separator is part of an integer in writing. -/
theorem not_mem_intText {c : Char} (hc : c ≠ '-') (hdigit : c.isDigit = false) (n : Int) : c ∉ (intText n).toList := by
  intro h
  rcases mem_intText h with h | h
  · exact hc h
  · exact absurd h (by simp [hdigit])

theorem not_mem_portText {c : Char} (hcolon : c ≠ ':') (hc : c ≠ '-') (hdigit : c.isDigit = false) (p : Option Int) :
    c ∉ portText p := by
  intro h
  obtain h | ⟨z, hz, h⟩ := mem_trailing h
  · exact hcolon h
  · obtain ⟨n, -, rfl⟩ := Option.map_eq_some_iff.mp hz
    exact not_mem_intText hc hdigit n h

theorem port_injective : Function.Injective (Option.map fun n : Int => (intText n).toList) :=
  Option.map_injective fun _ _ h => intText_injective (String.toList_inj.mp h)

/-- Only the same ports are written alike. -/
theorem portText_injective : Function.Injective portText := by
  intro p p' h
  obtain ⟨-, hp⟩ := append_trailing_inj List.not_mem_nil List.not_mem_nil (congrArg ([] ++ ·) h)
  exact port_injective hp

/-- A host without a colon is never written like one in brackets: the bracket that closes would be part of a port. -/
theorem plain_ne_bracketed {h h' : List Char} (hplain : ':' ∉ h) (hcolon : ':' ∈ h') (p p' : Option Int) :
    h ++ portText p ≠ '[' :: (h' ++ [']']) ++ portText p' := by
  intro he
  obtain ⟨before, after, rfl, hbefore⟩ := List.eq_append_cons_of_mem hcolon
  cases p with
  | none =>
    have hm : ':' ∈ h ++ portText none := he ▸ by simp
    exact hplain (by simpa [portText, trailing] using hm)
  | some n =>
    have hsplit : h ++ ':' :: (intText n).toList = ('[' :: before) ++ ':' :: (after ++ ']' :: portText p') := by
      simpa [portText, trailing] using he
    obtain ⟨-, hport⟩ := append_cons_inj_of_first hplain (by simpa using hbefore) hsplit
    exact not_mem_intText (by decide) (by decide) n (hport ▸ List.mem_append_right _ List.mem_cons_self)

/-- The host and the port are told apart. -/
theorem hostText_portText_inj {h h' : String} {p p' : Option Int}
    (he : hostText h ++ portText p = hostText h' ++ portText p') : h = h' ∧ p = p' := by
  unfold hostText at he
  split at he <;> split at he
  next =>
    have hclose (p : Option Int) : ']' ∉ portText p := not_mem_portText (by decide) (by decide) (by decide) p
    have hsplit : h.toList ++ ']' :: portText p = h'.toList ++ ']' :: portText p' := by simpa using he
    obtain ⟨hh, hp⟩ := append_cons_inj_of_last (hclose p) (hclose p') hsplit
    exact ⟨String.toList_inj.mp hh, portText_injective hp⟩
  next hcolon hplain => exact absurd he.symm (plain_ne_bracketed hplain hcolon p' p)
  next hplain hcolon => exact absurd he (plain_ne_bracketed hplain hcolon p p')
  next hplain hplain' =>
    obtain ⟨hh, hp⟩ := append_trailing_inj hplain hplain' he
    exact ⟨String.toList_inj.mp hh, port_injective hp⟩

/-- Two databases with timeouts are written alike if they are the same, or if one has the timeout of the other in its name. -/
theorem database_timeoutText {d d' : String} {t t' : Option String}
    (he : d.toList ++ timeoutText t = d'.toList ++ timeoutText t') :
    d = d' ∧ t = t' ∨
      (∃ x, t = some x ∧ t' = none ∧ d' = d ++ "?connect_timeout=" ++ encodeParameter x) ∨
      ∃ x, t = none ∧ t' = some x ∧ d = d' ++ "?connect_timeout=" ++ encodeParameter x := by
  cases t with
  | none =>
    cases t' with
    | none => exact Or.inl ⟨String.toList_inj.mp (List.append_inj_left' he rfl), rfl⟩
    | some x =>
      refine Or.inr (Or.inr ⟨x, rfl, rfl, String.toList_inj.mp ?_⟩)
      simpa [timeoutText, trailing] using he
  | some x =>
    cases t' with
    | none =>
      refine Or.inr (Or.inl ⟨x, rfl, rfl, String.toList_inj.mp ?_⟩)
      simpa [timeoutText, trailing] using he.symm
    | some y =>
      have clear (s : String) : '?' ∉ "connect_timeout=".toList ++ (encodeParameter s).toList := by
        simpa using question_not_mem_encodeParameter s
      obtain ⟨hd, hx⟩ := append_cons_inj_of_last (clear x) (clear y) he
      have hx := encodeParameter_injective (String.toList_inj.mp (List.append_cancel_left hx))
      exact Or.inl ⟨String.toList_inj.mp hd, congrArg some hx⟩

/-- One address has in the name of its database what the other has as its timeout. -/
def MovesTimeout (u v : Url) : Prop :=
  ∃ timeout database, u.query = [("connect_timeout", timeout)] ∧ u.database = some database ∧
    v = { u with database := some (database ++ "?connect_timeout=" ++ encodeParameter timeout), query := [] }

/-- Where a host ends can be told: two addresses have the same host, or no host has a slash. -/
def HostsTold (u v : Url) : Prop :=
  u.host = v.host ∨ (∀ h, u.host = some h → '/' ∉ h.toList) ∧ ∀ h, v.host = some h → '/' ∉ h.toList

theorem slash_not_mem_portText (port : Option Int) : '/' ∉ portText port :=
  not_mem_portText (by decide) (by decide) (by decide) port

theorem slash_not_mem_host {host : String} (h : '/' ∉ host.toList) (port : Option Int) : '/' ∉ hostText host ++ portText port := by
  rw [List.mem_append, not_or]
  refine ⟨?_, slash_not_mem_portText port⟩
  unfold hostText
  split
  · simpa using h
  · exact h

/-- Where the hosts can be told, so can the ports and what follows them. -/
theorem place_inj {host host' : String} {port port' : Option Int} {rest rest' : List Char}
    (hhosts : host = host' ∨ '/' ∉ host.toList ∧ '/' ∉ host'.toList)
    (h : hostText host ++ portText port ++ '/' :: rest = hostText host' ++ portText port' ++ '/' :: rest') :
    host = host' ∧ port = port' ∧ rest = rest' := by
  rcases hhosts with rfl | ⟨hslash, hslash'⟩
  · rw [List.append_assoc, List.append_assoc] at h
    obtain ⟨hport, hrest⟩ := append_cons_inj_of_first (slash_not_mem_portText port) (slash_not_mem_portText port')
      (List.append_cancel_left h)
    exact ⟨rfl, portText_injective hport, hrest⟩
  · obtain ⟨hhost, hrest⟩ := append_cons_inj_of_first (slash_not_mem_host hslash port) (slash_not_mem_host hslash' port') h
    obtain ⟨hhost, hport⟩ := hostText_portText_inj hhost
    exact ⟨hhost, hport, hrest⟩

theorem password_injective : Function.Injective fun password : Option String => (password.map Value.text).getD .null := by
  intro password password' h
  cases password with
  | none =>
    cases password' with
    | none => rfl
    | some s => cases h
  | some s =>
    cases password' with
    | none => cases h
    | some s' => exact congrArg some (Value.text.inj h)

/-- A timeout that moves into the name of the database leaves the text as it is. -/
theorem MovesTimeout.text_eq {u v : Url} (h : u.MovesTimeout v) : u.text = v.text := by
  obtain ⟨timeout, database, hquery, hdatabase, rfl⟩ := h
  rw [← String.toList_inj]
  simp [text, credentials, hquery, hdatabase, encodeParameter_connectTimeout, String.intercalate_singleton]

/-- Where the hosts can be told, addresses are written alike only if they are the same, apart from a timeout that is part of
the name of a database. -/
theorem text_eq_text_iff_of_hostsTold {u v : Url} (hu : u.Proper) (hv : v.Proper) (hhosts : u.HostsTold v) :
    u.text = v.text ↔ u = v ∨ u.MovesTimeout v ∨ v.MovesTimeout u := by
  constructor
  · intro h
    obtain ⟨hdriver, husername, hpassword, hplace⟩ := (text_eq_text_iff hu hv).mp h
    cases hu with
    | mysql username password host port database timeout =>
      cases hv with
      | mysql username' password' host' port' database' timeout' =>
        rw [← String.toList_inj, toList_place, toList_place] at hplace
        have hhosts := hhosts.imp Option.some.inj fun ⟨hslash, hslash'⟩ => And.intro (hslash host rfl) (hslash' host' rfl)
        obtain ⟨rfl, rfl, hdatabase⟩ := place_inj hhosts hplace
        obtain rfl : username = username' := Option.some.inj husername
        obtain rfl : password = password' := password_injective hpassword
        rcases database_timeoutText hdatabase with ⟨rfl, rfl⟩ | ⟨x, rfl, rfl, rfl⟩ | ⟨x, rfl, rfl, rfl⟩
        · exact Or.inl rfl
        · exact Or.inr (Or.inl ⟨x, _, rfl, rfl, rfl⟩)
        · exact Or.inr (Or.inr ⟨x, _, rfl, rfl, rfl⟩)
      | sqlite => exact absurd hdriver driver_mysql_ne_sqlite
    | sqlite database =>
      cases hv with
      | mysql => exact absurd hdriver.symm driver_mysql_ne_sqlite
      | sqlite database' =>
        have hd : database = database' := by
          rw [← String.toList_inj]
          simpa [place, sqlite] using congrArg String.toList hplace
        exact Or.inl (hd ▸ rfl)
  · rintro (rfl | h | h)
    · rfl
    · exact h.text_eq
    · exact h.text_eq.symm

end Url

/-! ## From options to addresses -/

/-- A text, or null. -/
def Value.IsTextOrNull (v : Value) : Prop := v = .null ∨ ∃ s, v = .text s

theorem Value.IsTextOrNull.exists_text {v : Value} (h : v.IsTextOrNull) (ht : v.isTruthy = true) : ∃ s, v = .text s := by
  rcases h with rfl | h
  · cases ht
  · exact h

namespace Options

/-- Options hold texts, or null, where they are declared to. -/
structure Typed (o : Options) : Prop where
  hostname : o.hostname.IsTextOrNull
  username : o.username.IsTextOrNull
  password : o.password.IsTextOrNull
  database : o.database.IsTextOrNull

/-- Options have what their database requires. -/
theorem isTruthy_of_ofFields {fields : Fields} {o : Options} (h : ofFields fields = .ok o) :
    (o.dialect = .mysql → o.hostname.isTruthy = true ∧ o.username.isTruthy = true) ∧ o.database.isTruthy = true := by
  obtain ⟨-, hreads⟩ := ofFields_eq_ok.mp h
  have hgiven := hreads.required
  rw [← hreads.hostname, ← hreads.username, ← hreads.database]
  cases hdialect : o.dialect with
  | mysql =>
    rw [hdialect] at hgiven
    exact ⟨fun _ => ⟨hgiven "hostname" (by decide), hgiven "username" (by decide)⟩, hgiven "database" (by decide)⟩
  | sqlite =>
    rw [hdialect] at hgiven
    exact ⟨nofun, hgiven "database" (by decide)⟩

end Options

/-- Options always stand for an address. -/
theorem Url.ofOptions_proper {fields : Fields} {o : Options} (h : Options.ofFields fields = .ok o) (ht : o.Typed) :
    ∃ u, Url.ofOptions o = .ok u ∧ u.Proper := by
  obtain ⟨hmysql, hgiven⟩ := Options.isTruthy_of_ofFields h
  obtain ⟨database, hdatabase⟩ := ht.database.exists_text hgiven
  unfold Url.ofOptions
  cases hd : o.dialect with
  | sqlite =>
    refine ⟨.sqlite database, ?_, .sqlite _⟩
    simp only [hdatabase, Url.textPart, ok_bind]
    rfl
  | mysql =>
    obtain ⟨host, hhost⟩ := ht.hostname.exists_text (hmysql hd).1
    obtain ⟨username, huser⟩ := ht.username.exists_text (hmysql hd).2
    have hpassword : ∃ p : Option String, o.password = (p.map Value.text).getD .null := by
      rcases ht.password with hp | ⟨s, hp⟩
      · exact ⟨none, hp⟩
      · exact ⟨some s, hp⟩
    obtain ⟨password, hpassword⟩ := hpassword
    refine ⟨.mysql username password host (if o.port = some 0 then none else o.port) database
      (if o.timeout.isTruthy then some o.timeout.spelled else none), ?_, .mysql ..⟩
    simp only [hhost, huser, hdatabase, hpassword, Url.textPart, ok_bind]
    cases o.timeout.isTruthy <;> rfl

end RelationMapper
