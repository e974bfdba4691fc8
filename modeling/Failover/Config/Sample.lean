import Failover.Config.Reader

/-!
# The sample configuration

A complete configuration with the default settings, to start from.
-/

namespace Failover.Config

def sampleLines : List String :=
  ["# WolfHA configuration",
    "topology = \"replication\"",
    "hosts = [\"db1:3306?type=master\", \"db2:3306\", \"db3:3306\"]",
    "user = \"app\"",
    "password = \"changeme\"",
    "database = \"app\"",
    "",
    "[failover]",
    "retries_all_down = 120",
    "seconds_before_retry_master = 30",
    "queries_before_retry_master = 50",
    "blacklist_timeout_ms = 50000",
    "fail_on_read_only = false",
    "auto_reconnect = false",
    "connect_timeout_ms = 3000",
    "load_balance = \"sequential\"",
    "",
    "[logging]",
    "level = \"info\"",
    "format = \"pretty\"",
    "# file = \"/var/log/wolfha/wolfha.log\""]

def sample : String := String.join (sampleLines.map (· ++ "\n"))

end Failover.Config
