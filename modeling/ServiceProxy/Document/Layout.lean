import ServiceProxy.Routing.Model

/-! The layout of the proxy's configuration document: an administration block, one listener
per routing entry and one cluster per routing entry, as lines. -/

set_option autoImplicit false

namespace ServiceProxy.Document

open Routing

def adminLines : List String :=
  [ "",
    "admin:",
    "  address:",
    "    socket_address: \x7b address: 127.0.0.1, port_value: 9901 \x7d",
    "" ]

def socketLines (pad : String) (e : Endpoint) : List String :=
  [ pad ++ "socket_address:",
    pad ++ "  address: " ++ e.address,
    pad ++ "  port_value: " ++ Decimal.port e.port,
    pad ++ "  protocol: " ++ e.protocol.name ]

def listenerLines (name : String) (listener : Endpoint) : List String :=
  [ "  - name: listener_" ++ name,
    "    address:" ] ++
  socketLines "      " listener ++
  [ "    filter_chains:",
    "      - filters:",
    "        - name: envoy.filters.network.tcp_proxy",
    "          typed_config:",
    "            \"@type\": type.googleapis.com/envoy.extensions.filters.network.tcp_proxy.v3.TcpProxy",
    "            stat_prefix: destination",
    "            cluster: cluster_" ++ name ]

def backendLines (healthCheckPort : Port) (e : Endpoint) : List String :=
  [ "        - lb_endpoints:",
    "          - endpoint:",
    "              health_check_config:",
    "                port_value: " ++ Decimal.port healthCheckPort,
    "              address:" ] ++
  socketLines "                " e

def clusterHeadLines (name : String) : List String :=
  [ "  - name: cluster_" ++ name,
    "    connect_timeout: 5s",
    "    type: STATIC",
    "    lb_policy: RANDOM",
    "    health_checks:",
    "      - timeout: 5s",
    "        interval: 3s",
    "        unhealthy_threshold: 3",
    "        healthy_threshold: 1",
    "        always_log_health_check_failures: true",
    "        always_log_health_check_success: true",
    "        http_health_check:",
    "          path: /healthz",
    "    load_assignment:",
    "      cluster_name: cluster_" ++ name,
    "      endpoints:" ]

def clusterLines (healthCheckPort : Port) (name : String) (cluster : List Endpoint) : List String :=
  clusterHeadLines name ++ cluster.flatMap (backendLines healthCheckPort)

def lines (healthCheckPort : Port) (entries : List (String × Entry)) : List String :=
  adminLines ++
  [ "static_resources:",
    "  listeners:" ] ++
  entries.flatMap (fun (name, entry) => listenerLines name entry.listener) ++
  [ "",
    "  clusters:" ] ++
  entries.flatMap (fun (name, entry) => clusterLines healthCheckPort name entry.cluster)

def unlines (ls : List String) : String := String.join (ls.map (· ++ "\n"))

theorem toList_unlines (ls : List String) :
    (unlines ls).toList = ls.flatMap fun line => line.toList ++ ['\n'] := by
  simp only [unlines, String.toList_join, List.flatMap_map, String.toList_append]
  rfl

end ServiceProxy.Document
