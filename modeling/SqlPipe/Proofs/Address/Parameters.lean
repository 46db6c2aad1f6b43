import SqlPipe.Proofs.Address.Servers
import SqlPipe.Proofs.Url.Form
import SqlPipe.Proofs.Url.Rendering
import Mathlib.Data.List.Forall2

/-!
# Parameters of MySQL addresses

The parameters of an address become parameters that are understood, each on its own and in their
order, and nothing else of the address changes.  What is written for them is read as just these
parameters again, whatever their values hold.
-/

namespace SqlPipe

namespace Mysql

/-- What a parameter of an address becomes. -/
inductive Becomes : String × String → List (String × String) → Prop
  /-- A parameter that is understood stays as it is. -/
  | known {name value : String} (hname : name ∈ parameterNames) :
      Becomes (name, value) [(name, value)]
  | packet {value : String} : Becomes ("maxAllowedPacket", value) [("max_allowed_packet", value)]
  | rows {value : String} : Becomes ("clientFoundRows", value) [("client_found_rows", value)]
  | secured {value : String} (hvalue : value = "true" ∨ value = "preferred") :
      Becomes ("tls", value) [("require_ssl", "true")]
  | unverified :
      Becomes ("tls", "skip-verify")
        [("require_ssl", "true"), ("verify_ca", "false"), ("verify_identity", "false")]
  /-- Any other parameter is dropped. -/
  | dropped {name value : String} (hname : name ∉ parameterNames)
      (hpacket : name ≠ "maxAllowedPacket") (hrows : name ≠ "clientFoundRows")
      (htls : name = "tls" → value ∉ ["true", "preferred", "skip-verify"]) :
      Becomes (name, value) []

theorem becomes_translate (parameter : String × String) :
    Becomes parameter (translate parameter) := by
  obtain ⟨name, value⟩ := parameter
  unfold translate
  dsimp only
  split_ifs with hname hpacket hrows htls hsecured hunverified
  · exact .known (List.contains_iff_mem.mp hname)
  · exact hpacket ▸ .packet
  · exact hrows ▸ .rows
  · exact htls ▸ .secured (by simpa using hsecured)
  · exact htls ▸ hunverified ▸ .unverified
  · exact .dropped (by simpa using hname) hpacket hrows fun _ => by simp_all
  · exact .dropped (by simpa using hname) hpacket hrows fun heq => absurd heq htls

theorem Becomes.eq_translate
    {parameter : String × String} {parts : List (String × String)}
    (hbecomes : Becomes parameter parts) : parts = translate parameter := by
  cases hbecomes with
  | known hname => rw [translate, if_pos (List.contains_iff_mem.mpr hname)]
  | packet => simp [translate, parameterNames]
  | rows => simp [translate, parameterNames]
  | secured hvalue => rcases hvalue with rfl | rfl <;> simp [translate, parameterNames]
  | unverified => simp [translate, parameterNames]
  | dropped hname hpacket hrows htls =>
      rw [translate, if_neg (by simpa using hname), if_neg hpacket, if_neg hrows]
      split_ifs with heq hsecured hunverified
      · simp_all
      · simp_all
      · rfl
      · rfl

theorem eq_map_translate
    {parameters : List (String × String)} {parts : List (List (String × String))}
    (hparts : List.Forall₂ Becomes parameters parts) : parts = parameters.map translate := by
  induction hparts with
  | nil => rfl
  | cons hfirst _ ih => rw [hfirst.eq_translate, ih, List.map_cons]

/-! ## The plain form -/

/-- The plain form of an address has a server, and its parts hold what may stand at their places. -/
theorem plain_of_parse
    {rest : List Char} {url : Url}
    (hurl : Url.parse (String.ofList ("mysql://".toList ++ rest)) = .ok url) :
    url.Plain ∧ url.scheme = "mysql" := by
  have hscheme : Url.IsScheme "mysql".toList := by decide
  rw [show "mysql://".toList ++ rest = Url.addressText "mysql".toList rest from rfl,
    hscheme.parse_addressText (by decide)] at hurl
  exact Url.plain_of_readWithAuthority hurl

/-- An address with another query is read as the same address with this query. -/
theorem parse_render_withQuery
    {url : Url} (hurl : url.Plain) (hscheme : url.scheme = "mysql") {query : Option String}
    (hquery : Url.EncodedPart Url.querySet query) :
    Url.parse ({ url with query := query } : Url).render = .ok { url with query := query } := by
  have hplain : ({ url with query := query } : Url).Plain :=
    ⟨hurl.authority, hurl.path, hquery, hurl.fragment⟩
  refine Url.parse_render ?_ ?_ hplain
  · exact hscheme.symm ▸ (by decide : Url.IsScheme "mysql".toList)
  · exact hscheme.symm ▸ (by decide : Url.SchemeKind.of "mysql".toList = .other)

theorem encodedPart_translateQuery (query : String) :
    Url.EncodedPart Url.querySet (translateQuery query) := by
  intro text htext
  unfold translateQuery at htext
  split at htext
  next => cases htext
  next =>
    rw [← Option.some.inj htext, String.toList_ofList]
    exact Url.encoded_formQuery _

/-- The parts of a query are written one behind the other, or not at all. -/
theorem translateQuery_spec (query : String) :
    ∃ parts, List.Forall₂ Becomes (Url.formPairs query.toList) parts ∧
      (parts.flatten = [] → translateQuery query = none) ∧
      (parts.flatten ≠ [] → ∃ written, translateQuery query = some written ∧
        Url.formPairs written.toList = parts.flatten) := by
  refine ⟨(Url.formPairs query.toList).map translate, ?_, ?_⟩
  · rw [List.forall₂_map_right_iff, List.forall₂_same]
    exact fun parameter _ => becomes_translate parameter
  · rw [← List.flatMap_def, translateQuery]
    constructor
    · intro hempty
      rw [hempty]
    · intro hsome
      split
      next hempty => exact absurd hempty hsome
      next =>
        refine ⟨_, rfl, ?_⟩
        rw [String.toList_ofList, Url.formPairs_formQuery]

theorem exists_of_connectionText
    {rest : List Char} {text : String} (htext : connectionText rest = .ok text) :
    ∃ plain url, plainRest rest = .ok plain ∧
      Url.parse (String.ofList ("mysql://".toList ++ plain)) = .ok url ∧
      (url.query = none → text = String.ofList ("mysql://".toList ++ plain)) ∧
      ∀ query, url.query = some query →
        text = ({ url with query := translateQuery query } : Url).render := by
  rw [connectionText_eq] at htext
  obtain ⟨⟨written, url⟩, hplain, rfl⟩ := Url.exists_of_map_eq_ok htext
  rw [plainUrl_eq] at hplain
  obtain ⟨plain, hrest, hplain⟩ := Url.exists_of_bind_eq_ok hplain
  split at hplain
  next found hurl =>
    obtain ⟨rfl, rfl⟩ := Prod.mk.inj (Except.ok.inj hplain)
    refine ⟨plain, found, hrest, hurl, fun hnone => ?_, fun query hquery => ?_⟩
    · simp only [hnone]
    · simp only [hquery]
  next => cases hplain

end Mysql

namespace DatabaseAddress

theorem exists_of_parse
    {text : List Char} {address : DatabaseAddress} (hparse : parse text = .ok address) :
    ∃ scheme rest, splitScheme? text = some (scheme, rest) ∧
      Dialect.ofScheme? (String.ofList scheme) = some address.dialect ∧
      connectionTextOf address.dialect rest = .ok address.connectionText := by
  unfold parse at hparse
  cases hsplit : splitScheme? text with
  | none =>
      rw [hsplit] at hparse
      cases hparse
  | some parts =>
      rw [hsplit] at hparse
      dsimp only at hparse
      cases hscheme : Dialect.ofScheme? (String.ofList parts.1) with
      | none =>
          rw [hscheme] at hparse
          cases hparse
      | some dialect =>
          rw [hscheme] at hparse
          obtain ⟨connection, hconnection, heq⟩ := Url.exists_of_bind_eq_ok hparse
          cases heq
          exact ⟨parts.1, parts.2, rfl, hscheme, hconnection⟩

/-- What a driver is given for a MySQL address.  Without a query it is the plain form as it is
written; with one it is a URL that differs from the plain form in its query only, and the parameters
read from this query are those that the parameters of the address become, one after the other. -/
theorem parse_translates_parameters
    {text : List Char} {address : DatabaseAddress} (hparse : parse text = .ok address)
    (hdialect : address.dialect = .mysql) :
    ∃ scheme rest plain url,
      splitScheme? text = some (scheme, rest) ∧ Mysql.plainRest rest = .ok plain ∧
      Url.parse (String.ofList ("mysql://".toList ++ plain)) = .ok url ∧
      (url.query = none →
        address.connectionText = String.ofList ("mysql://".toList ++ plain)) ∧
      ∀ query, url.query = some query →
        ∃ connection parts,
          Url.parse address.connectionText = .ok connection ∧
          connection.scheme = url.scheme ∧ connection.authority = url.authority ∧
          connection.path = url.path ∧ connection.fragment = url.fragment ∧
          List.Forall₂ Mysql.Becomes (Url.formPairs query.toList) parts ∧
          (parts.flatten = [] → connection.query = none) ∧
          (parts.flatten ≠ [] → ∃ written, connection.query = some written ∧
            Url.formPairs written.toList = parts.flatten) := by
  obtain ⟨scheme, rest, hsplit, -, hconnection⟩ := exists_of_parse hparse
  rw [hdialect] at hconnection
  obtain ⟨plain, url, hrest, hurl, hnone, hsome⟩ := Mysql.exists_of_connectionText hconnection
  refine ⟨scheme, rest, plain, url, hsplit, hrest, hurl, hnone, fun query hquery => ?_⟩
  obtain ⟨hplain, hscheme⟩ := Mysql.plain_of_parse hurl
  obtain ⟨parts, hparts, hempty, hfilled⟩ := Mysql.translateQuery_spec query
  have hread := Mysql.parse_render_withQuery hplain hscheme (Mysql.encodedPart_translateQuery query)
  rw [← hsome query hquery] at hread
  exact ⟨_, parts, hread, rfl, rfl, rfl, rfl, hparts, hempty, hfilled⟩

/-- An address with a parameter that becomes three, one that is dropped, and one whose value holds
the signs between parameters. -/
theorem parse_translates_parameters_of_mixed :
    let text := ("maria://root:p@ss@tcp([::1]:3307)/app?tls=skip-verify&charset=utf8" ++
      "&wait_timeout=1%262+3#top").toList
    ∃ address connection, parse text = .ok address ∧ address.dialect = .mysql ∧
      Url.parse address.connectionText = .ok connection ∧ connection.fragment = some "top" ∧
      ∃ written, connection.query = some written ∧
        Url.formPairs written.toList =
          [("require_ssl", "true"), ("verify_ca", "false"), ("verify_identity", "false"),
            ("wait_timeout", "1&2 3")] := by
  intro text
  have hparse : parse text = .ok ⟨.mysql, "mysql://root:p%40ss@[::1]:3307/app?require_ssl=true" ++
      "&verify_ca=false&verify_identity=false&wait_timeout=1%262+3#top"⟩ := by
    decide +kernel
  obtain ⟨scheme, rest, plain, url, hsplit, hrest, hurl, -, hconnection⟩ :=
    parse_translates_parameters hparse rfl
  have hsplit' : splitScheme? text = some ("maria".toList, text.drop 8) := by
    decide +kernel
  obtain ⟨-, rfl⟩ := Prod.mk.inj (Option.some.inj (hsplit.symm.trans hsplit'))
  have hrest' : Mysql.plainRest (text.drop 8) = .ok ("root:p@ss@[::1]:3307/app".toList ++
      text.drop 37) := by
    decide +kernel
  obtain rfl := Except.ok.inj (hrest.symm.trans hrest')
  have hquery : (Url.parse (String.ofList ("mysql://".toList ++
      ("root:p@ss@[::1]:3307/app".toList ++ text.drop 37)))).map
        (fun url => (url.query, url.fragment)) =
      .ok (some "tls=skip-verify&charset=utf8&wait_timeout=1%262+3", some "top") := by
    decide +kernel
  rw [hurl] at hquery
  obtain ⟨hsome, htop⟩ := Prod.mk.inj (Except.ok.inj hquery)
  obtain ⟨connection, parts, hread, -, -, -, hfragment, hparts, -, hfilled⟩ :=
    hconnection _ hsome
  have hflatten : parts.flatten =
      [("require_ssl", "true"), ("verify_ca", "false"), ("verify_identity", "false"),
        ("wait_timeout", "1&2 3")] := by
    rw [Mysql.eq_map_translate hparts]
    decide +kernel
  rw [hflatten] at hfilled
  exact ⟨_, connection, hparse, rfl, hread, hfragment.trans htop, hfilled (List.cons_ne_nil _ _)⟩

end DatabaseAddress

end SqlPipe
