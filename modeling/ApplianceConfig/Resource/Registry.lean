import ApplianceConfig.Resource.Definition

/-!
# The known resources

The resources of an appliance by key, grouped by the service they belong to:
`system` for networking, accounts, snapshots and containers, `wga` for the
reverse proxy, `aac` for access control, `ssl` for certificates.  A resource
that follows the general pattern needs a definition here and nothing else.
-/

set_option autoImplicit false

namespace ApplianceConfig.Registry

/-- A key with its definition. -/
abbrev Entry := String × ResourceDefinition

/-- Networking, accounts, snapshots, extensions and containers. -/
def systemResources : List Entry := [
  ("dns",
    { displayName := "DNS Settings", service := "system", kind := .singleton, uri := "/net/dns" }),
  ("date-time",
    { displayName := "Date/Time Settings", service := "system", kind := .singleton,
      uri := "/core/time_cfg", volatileFields := ["dateTime"] }),
  ("admin-settings",
    { displayName := "Administrator Settings", service := "system", kind := .singleton,
      uri := "/core/admin_cfg", updatePayload := .merge }),
  ("host-records",
    { displayName := "Hosts File Records", service := "system", uri := "/isam/host_records",
      idField := "addr", searchFields := ["addr"] }),
  ("static-routes",
    { displayName := "Static Routes", service := "system", uri := "/net/routes",
      idField := "uuid", searchFields := ["address", "maskOrPrefix", "gateway"] }),
  ("interfaces",
    { displayName := "Network Interfaces", service := "system", uri := "/net/ifaces",
      responsePath := "interfaces", idField := "uuid", searchFields := ["label"],
      updatePayload := .merge }),
  ("management-users",
    { displayName := "Management Users", service := "system", uri := "/sysaccount/users/v1",
      itemUri := some "/sysaccount/users/\x7bid\x7d/v1", searchFields := ["id"] }),
  ("management-groups",
    { displayName := "Management Groups", service := "system", uri := "/sysaccount/groups/v1",
      itemUri := some "/sysaccount/groups/\x7bid\x7d/v1", searchFields := ["id"] }),
  ("advanced-tuning-parameters",
    { displayName := "Advanced Tuning Parameters", service := "system",
      uri := "/core/adv_params", responsePath := "tuningParameters", idField := "uuid",
      searchFields := ["key"], volatileFields := ["_isNew"] }),
  ("extensions",
    { displayName := "Extensions", service := "system", uri := "/extensions",
      searchFields := ["id"], minimumVersion := some "9.0.5.0" }),
  ("snapshots",
    { displayName := "Snapshots", service := "system", uri := "/snapshots",
      searchFields := ["comment"], volatileFields := ["created_on", "filename", "index"] }),
  ("containers",
    { displayName := "Managed Containers", service := "system",
      uri := "/isam/container_ext/container",
      itemUri := some "/isam/container_ext/container/\x7bid\x7d", searchFields := ["name"],
      volatileFields := ["state", "created"], minimumVersion := some "10.0.4.0" }),
  ("container-repositories",
    { displayName := "Container Image Repositories", service := "system",
      uri := "/isam/container_ext/repo", searchFields := ["host"],
      minimumVersion := some "10.0.4.0" })]

/-- Reverse proxy instances, junctions and what belongs to them. -/
def proxyResources : List Entry := [
  ("reverseproxy-instances",
    { displayName := "Reverse Proxy Instances", service := "wga", uri := "/wga/reverseproxy",
      searchFields := ["id"], volatileFields := ["started", "restart", "version"],
      requiredModules := ["wga"] }),
  ("junctions",
    { displayName := "Junctions", service := "wga",
      uri := "/wga/reverseproxy/\x7binstance\x7d/junctions",
      itemUri := some "/wga/reverseproxy/\x7binstance\x7d/junctions?junctions_id=\x7bid\x7d",
      searchFields := ["id"], updateMethod := .post,
      volatileFields := ["server_uuid", "server_state", "operation_state", "current_requests"],
      requiredModules := ["wga"] }),
  ("runtime-component",
    { displayName := "Runtime Component", service := "wga", kind := .singleton,
      uri := "/isam/runtime_components", volatileFields := ["status"],
      requiredModules := ["wga"] }),
  ("ldap-suffixes",
    { displayName := "Embedded LDAP Suffixes", service := "wga",
      uri := "/isam/embedded_ldap/suffixes/v1",
      itemUri := some "/isam/embedded_ldap/suffixes/\x7bid\x7d/v1", searchFields := ["suffix"] }),
  ("url-mappings",
    { displayName := "JMT URL Mappings", service := "wga", uri := "/wga/jmt_config",
      searchFields := ["name"], requiredModules := ["wga"] }),
  ("http-transformations",
    { displayName := "HTTP Transformation Rules", service := "wga",
      uri := "/wga/http_transformation_rules", searchFields := ["id"],
      requiredModules := ["wga"] })]

/-- Access control and API protection. -/
def accessResources : List Entry := [
  ("access-policies",
    { displayName := "Access Control Policies", service := "aac",
      uri := "/iam/access/v8/policies", searchFields := ["name"], updatePayload := .merge,
      volatileFields := ["datecreated", "lastmodified", "userlastmodified", "predefined"],
      requiredModules := ["mga"] }),
  ("authentication-mechanisms",
    { displayName := "Authentication Mechanisms", service := "aac",
      uri := "/iam/access/v8/authentication/mechanisms", searchFields := ["uri"],
      updatePayload := .merge, requiredModules := ["mga"] }),
  ("api-protection-definitions",
    { displayName := "API Protection Definitions", service := "aac",
      uri := "/iam/access/v8/definitions", searchFields := ["name"], updatePayload := .merge,
      volatileFields := ["datecreated", "lastmodified"], requiredModules := ["mga"] }),
  ("api-protection-clients",
    { displayName := "API Protection Clients", service := "aac", uri := "/iam/access/v8/clients",
      searchFields := ["clientId"], updatePayload := .merge, requiredModules := ["mga"] }),
  ("mapping-rules",
    { displayName := "Mapping Rules", service := "aac", uri := "/iam/access/v8/mapping-rules",
      searchFields := ["name"], updatePayload := .merge, volatileFields := ["lastmodified"],
      requiredModules := ["mga"] }),
  ("advanced-configuration",
    { displayName := "Advanced Configuration", service := "aac",
      uri := "/iam/access/v8/override-configs", searchFields := ["key"], updatePayload := .merge,
      requiredModules := ["mga"] }),
  ("ldap-server-connections",
    { displayName := "LDAP Server Connections", service := "aac",
      uri := "/mga/server_connections/ldap/v1",
      itemUri := some "/mga/server_connections/ldap/\x7bid\x7d/v1", idField := "uuid",
      searchFields := ["name"], updatePayload := .merge, volatileFields := ["locked"],
      minimumVersion := some "9.0.1.0" })]

/-- Certificate databases and certificates. -/
def certificateResources : List Entry := [
  ("certificate-databases",
    { displayName := "Certificate Databases", service := "ssl", uri := "/isam/ssl_certificates",
      searchFields := ["id"], volatileFields := ["last_modified", "rollover_time"] }),
  ("signer-certificates",
    { displayName := "Signer Certificates", service := "ssl",
      uri := "/isam/ssl_certificates/\x7bkdb_id\x7d/signer_cert",
      itemUri := some "/isam/ssl_certificates/\x7bkdb_id\x7d/signer_cert/\x7bid\x7d",
      searchFields := ["label"] }),
  ("personal-certificates",
    { displayName := "Personal Certificates", service := "ssl",
      uri := "/isam/ssl_certificates/\x7bkdb_id\x7d/personal_cert",
      itemUri := some "/isam/ssl_certificates/\x7bkdb_id\x7d/personal_cert/\x7bid\x7d",
      searchFields := ["label"] })]

/-- All resources. -/
def entries : List Entry :=
  systemResources ++ proxyResources ++ accessResources ++ certificateResources

/-- The definition with a key. -/
def find? (key : String) : Option ResourceDefinition := entries.lookup key

/-- The keys of the given entries in order. -/
def sortedKeys (entries : List Entry) : List String :=
  (entries.map Prod.fst).mergeSort fun a b => decide (a ≤ b)

/-- All keys in order. -/
def keys : List String := sortedKeys entries

/-- The keys of one service in order. -/
def keysOfService (service : String) : List String :=
  sortedKeys (entries.filter fun entry => entry.2.service == service)

end ApplianceConfig.Registry
