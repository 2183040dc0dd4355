import StreamSync.ClientConfigFile
import StreamSync.ServerConfigFile

namespace StreamSync

open LineText

/-- Both configs load with the token, and the client sends what the server holds it against. -/
def TokensAgree (resolveDestination : String → UInt16 → Except ClientAuthRequestPocError SocketAddr)
    (client server : TokenFile) (clientId token : String) : Prop :=
  ∃ startup config,
    loadStartupConfigFromStr resolveDestination (client.text "client" token) = .ok startup ∧
    loadFromStr (server.text ("auth.clients." ++ clientId) token) = .ok config ∧
    ∀ env, expectedToken env config clientId = some (.ok ⟨clientId, startup.request.sharedToken⟩)

/-- Both parsers take a number sign inside the quotes for a comment. -/
theorem tokensAgree_iff {resolveDestination : String → UInt16 → Except ClientAuthRequestPocError SocketAddr}
    {client server : TokenFile} {clientId token : String} (hid : UsableTableName clientId)
    (htoken : PlainToken token) (hclient : ClientTokenFile resolveDestination client)
    (hserver : ServerTokenFile server clientId) :
    TokensAgree resolveDestination client server clientId token ↔ '#' ∉ token.toList := by
  have hsent := loadStartupConfigFromStr_text hclient htoken
  have hheld := loadFromStr_text hid hserver htoken
  by_cases hhash : '#' ∈ token.toList
  · rw [if_pos hhash] at hsent
    obtain ⟨lineNumber, herror⟩ := hsent
    refine iff_of_false ?_ (not_not_intro hhash)
    rintro ⟨startup, config, hload, -, -⟩
    rw [herror] at hload
    cases hload
  · rw [if_neg hhash] at hsent hheld
    obtain ⟨startup, hstartup, hsame⟩ := hsent
    obtain ⟨config, hconfig, hexpected⟩ := hheld
    refine iff_of_true ⟨startup, config, hstartup, hconfig, fun env => ?_⟩ hhash
    rw [hsame]
    exact hexpected env

def exampleClientFile : TokenFile where
  before := "# client"
  entries := "client_id = \"player1\"\nserver_host = \"127.0.0.1\"\nserver_port = 5000"
  after := "\n[session]\nrun_id = \"dev\" # run\napp_version = \"0.1.0\"\nprotocol_version = 1\n"

def exampleServerFile : TokenFile where
  before := "[auth]\nenabled = true"
  entries := "display_name = \"Player 1\""
  after := "[auth.clients.player2]\nshared_token = \"token-2\"\n"

/-- A resolver that knows one host. -/
def exampleResolver : String → UInt16 → Except ClientAuthRequestPocError SocketAddr := fun host port =>
  if host = "127.0.0.1" then .ok (.v4 2130706433 port)
  else .error (.destination (.invalidDestination host "unknown host"))

theorem usableTableName_player1 : UsableTableName "player1" :=
  ⟨by decide, by decide, by decide, by decide⟩

theorem plainToken_token : PlainToken "token" := ⟨by decide, by decide, by decide, by decide⟩

theorem exists_ok_of_isOk {ε α : Type} {x : Except ε α} (h : x.isOk = true) : ∃ a, x = .ok a := by
  cases x with
  | error e => cases h
  | ok a => exact ⟨a, rfl⟩

theorem clientTokenFile_example : ClientTokenFile exampleResolver exampleClientFile := by
  have hloads : (loadStartupConfigFromStr exampleResolver
      (exampleClientFile.text "client" "token")).isOk = true := by
    unfold loadStartupConfigFromStr parseClientPocSettings TokenFile.text
    rw [String.toList_ofList]
    decide +kernel
  obtain ⟨startup, hstartup⟩ := exists_ok_of_isOk hloads
  exact ⟨⟨by decide +kernel, by decide +kernel⟩, "token", startup, plainToken_token, by decide, hstartup⟩

theorem serverTokenFile_example : ServerTokenFile exampleServerFile "player1" := by
  have hloads : (loadFromStr (exampleServerFile.text ("auth.clients." ++ "player1") "token")).isOk = true := by
    unfold loadFromStr parseAuthClients TokenFile.text
    rw [String.toList_ofList]
    decide +kernel
  obtain ⟨config, hconfig⟩ := exists_ok_of_isOk hloads
  exact ⟨⟨by decide +kernel, by decide +kernel⟩, "token", config, plainToken_token, by decide, hconfig⟩

/-- Brackets, an equals sign and spaces inside the quotes do no harm. -/
theorem tokensAgree_iff_brackets :
    PlainToken "[a] = b" ∧ ClientTokenFile exampleResolver exampleClientFile ∧
      ServerTokenFile exampleServerFile "player1" ∧
      (TokensAgree exampleResolver exampleClientFile exampleServerFile "player1" "[a] = b" ↔
        '#' ∉ "[a] = b".toList) :=
  have htoken : PlainToken "[a] = b" := ⟨by decide, by decide, by decide, by decide⟩
  ⟨htoken, clientTokenFile_example, serverTokenFile_example,
    tokensAgree_iff usableTableName_player1 htoken clientTokenFile_example serverTokenFile_example⟩

theorem tokens_cut_at_number_sign :
    ¬ ∀ (resolveDestination : String → UInt16 → Except ClientAuthRequestPocError SocketAddr)
        (client server : TokenFile) (clientId token : String), UsableTableName clientId → PlainToken token →
      ClientTokenFile resolveDestination client → ServerTokenFile server clientId →
      TokensAgree resolveDestination client server clientId token := by
  intro h
  have htoken : PlainToken "s3cret#1" := ⟨by decide, by decide, by decide, by decide⟩
  obtain ⟨startup, config, hload, -, -⟩ := h exampleResolver exampleClientFile exampleServerFile "player1"
    "s3cret#1" usableTableName_player1 htoken clientTokenFile_example serverTokenFile_example
  have hcut := loadStartupConfigFromStr_text clientTokenFile_example htoken
  rw [if_pos (by decide)] at hcut
  obtain ⟨lineNumber, herror⟩ := hcut
  rw [hload] at herror
  cases herror

end StreamSync
