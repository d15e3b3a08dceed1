import Parley.Account.Basic
import Parley.App
import Parley.Store.Select

/-!
# Statements

All that is ever sent to the database, as a closed list of statements with their
parameters. A statement has a text and a list of arguments; parameters go into the
arguments only.
-/
namespace Parley.Store

/-- The type of the end users that belong to accounts (`USER_TYPE_ACCOUNT_LINKED`). -/
def linkedType : String := "account_linked"

/-- Everything that the service asks of the database. -/
inductive Statement where
  | openTransaction
  | commitTransaction
  /-- The account behind a running session (`validate_session`). -/
  | sessionAccount (token : String)
  | accountByEmail (email : String)
  /-- The number of tenants an account has joined (`joined_tenant_count`). -/
  | tenantCount (account : Uuid)
  | recordLogin (account : Uuid) (address : Option String)
  | insertSession (token : String) (account : Uuid) (address : Option String) (minutes : Int)
  | insertRefreshToken (token : String) (account : Uuid) (days : Int)
  /-- Takes a refresh token out of store, and returns its account. -/
  | consumeRefreshToken (token : String)
  | deleteSession (token : String)
  | appById (app : Uuid)
  /-- An app that an account can reach through a tenant (`find_app_for_account`). -/
  | appForAccount (app account : Uuid)
  /-- The app behind the public code of a site (`find_active_site`). -/
  | activeSite (code : String)
  | accountName (account : Uuid)
  /-- Makes or renews the end user that has the id of an account (`link_end_user`). -/
  | linkEndUser (account tenant app : Uuid) (name : String) (session : Uuid)
  | endUserExists (endUser : Uuid)
  /-- The conversations that a principal has pinned (`pinned_conversation_ids`). -/
  | pinned (app : Uuid) (principal : Principal)
  | findInScope (scope : Conversation.Scope) (id : Uuid) (ids : IdFilter)
  | pageInScope (scope : Conversation.Scope) (query : PageQuery Conversation.SortField)
      (limit : Nat)
  | countInScope (scope : Conversation.Scope) (query : PageQuery Conversation.SortField)
  | getOwned (app : Uuid) (principal : Principal) (id : Uuid)
  | renameOwned (app : Uuid) (principal : Principal) (id : Uuid) (name : String)
  | deleteOwned (app : Uuid) (principal : Principal) (id : Uuid)
  /-- The first question of a conversation. -/
  | firstQuestion (app conversation : Uuid)
  | setName (conversation : Uuid) (name : String)
  deriving DecidableEq, Repr

/-! ## Text and arguments -/

namespace Statement

/-- The statement as it is sent. -/
def prepared : Statement → Prepared
  | openTransaction => .ofFragments [.text "BEGIN"]
  | commitTransaction => .ofFragments [.text "COMMIT"]
  | sessionAccount token => .ofFragments [
      .text "SELECT a.id FROM sessions s JOIN accounts a ON a.id = s.account_id WHERE s.token = ",
      .arg (.text token), .text " AND s.expires_at > now() AND a.status = 'active'"]
  | accountByEmail email => .ofFragments [
      .text "SELECT id, password, password_salt, status FROM accounts WHERE email = ",
      .arg (.text email)]
  | tenantCount account => .ofFragments [
      .text "SELECT COUNT(*) FROM tenant_account_joins WHERE account_id = ", .arg (.uuid account)]
  | recordLogin account address => {
      sql := "UPDATE accounts SET last_login_at = now(), last_login_ip = $2, " ++
        "status = CASE WHEN status = $3 THEN $4 ELSE status END WHERE id = $1"
      args := [.uuid account, Arg.ofOption .text address, .text Account.pending,
        .text Account.active] }
  | insertSession token account address minutes => .ofFragments [
      .text "INSERT INTO sessions (token, account_id, ip, expires_at) VALUES (",
      .arg (.text token), .text ", ", .arg (.uuid account), .text ", ",
      .arg (Arg.ofOption .text address), .text ", now() + make_interval(mins => ",
      .arg (.int minutes), .text "::int))"]
  | insertRefreshToken token account days => .ofFragments [
      .text "INSERT INTO refresh_tokens (token, account_id, expires_at) VALUES (",
      .arg (.text token), .text ", ", .arg (.uuid account),
      .text ", now() + make_interval(days => ", .arg (.int days), .text "::int))"]
  | consumeRefreshToken token => .ofFragments [
      .text "DELETE FROM refresh_tokens WHERE token = ", .arg (.text token),
      .text " AND expires_at > now() RETURNING account_id"]
  | deleteSession token => .ofFragments [
      .text "DELETE FROM sessions WHERE token = ", .arg (.text token)]
  | appById id => .ofFragments [
      .text "SELECT id, tenant_id, status, enable_site FROM apps WHERE id = ", .arg (.uuid id)]
  | appForAccount id account => .ofFragments [
      .text ("SELECT a.id, a.tenant_id, a.status, a.enable_site FROM apps a " ++
        "JOIN tenant_account_joins j ON j.tenant_id = a.tenant_id WHERE a.id = "),
      .arg (.uuid id), .text " AND j.account_id = ", .arg (.uuid account),
      .text " AND a.status = ", .arg (.text App.normal)]
  | activeSite code => .ofFragments [
      .text "SELECT app_id FROM sites WHERE code = ", .arg (.text code),
      .text " AND status = ", .arg (.text App.normal)]
  | accountName account => .ofFragments [
      .text "SELECT name FROM accounts WHERE id = ", .arg (.uuid account)]
  | linkEndUser account tenant app name session => .ofFragments [
      .text ("INSERT INTO end_users (id, tenant_id, app_id, type, name, is_anonymous, " ++
        "session_id) VALUES ("),
      .arg (.uuid account), .text ", ", .arg (.uuid tenant), .text ", ", .arg (.uuid app),
      .text ", ", .arg (.text linkedType), .text ", ", .arg (.text name),
      .text ", FALSE, ", .arg (.text session.text),
      .text (") ON CONFLICT (id) DO UPDATE SET type = EXCLUDED.type, name = EXCLUDED.name, " ++
        "is_anonymous = FALSE, updated_at = now() RETURNING id, type")]
  | endUserExists endUser => .ofFragments [
      .text "SELECT EXISTS(SELECT 1 FROM end_users WHERE id = ", .arg (.uuid endUser), .text ")"]
  | pinned app principal => .ofFragments [
      .text "SELECT conversation_id FROM pinned_conversations WHERE app_id = ", .arg (.uuid app),
      .text " AND created_by_role = ", .arg (.text principal.role),
      .text " AND created_by = ", .arg (.uuid principal.id)]
  | findInScope scope id ids => .ofFragments (Select.oneInScope scope id ids).fragments
  | pageInScope scope query limit => .ofFragments (Select.page scope query limit).fragments
  | countInScope scope query => .ofFragments (Select.count scope query).fragments
  | getOwned app principal id => .ofFragments (Select.owned app principal id).fragments
  | renameOwned app principal id name => .ofFragments
      (.text "UPDATE conversations SET name = " :: .arg (.text name) ::
        .text ", updated_at = now()" ::
        Condition.whereAll (ownedById app principal id) ++ [.text (" RETURNING " ++ columnList)])
  | deleteOwned app principal id => .ofFragments
      (.text "UPDATE conversations SET is_deleted = TRUE, updated_at = now()" ::
        Condition.whereAll (ownedById app principal id))
  | firstQuestion app conversation => .ofFragments [
      .text "SELECT query FROM messages WHERE app_id = ", .arg (.uuid app),
      .text " AND conversation_id = ", .arg (.uuid conversation),
      .text " ORDER BY created_at ASC LIMIT 1"]
  | setName conversation name => .ofFragments [
      .text "UPDATE conversations SET name = ", .arg (.text name),
      .text " WHERE id = ", .arg (.uuid conversation)]

def sql (s : Statement) : String :=
  s.prepared.sql

def args (s : Statement) : List Arg :=
  s.prepared.args

/-- Whether the statement only opens or ends a transaction. -/
def isTransactional : Statement → Bool
  | openTransaction => true
  | commitTransaction => true
  | _ => false

end Statement

end Parley.Store
