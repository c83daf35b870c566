import DashboardGenerator.Dashboard.Numbering

/-!
# The built-in dashboard

Rates of successful and failed requests and their latency between a source and a destination
service, both chosen through template variables.
-/

namespace DashboardGenerator.Dashboard

/-- The data source of every built-in template and panel. -/
def metricsSource : String := "prometheus"

/-- A template over the services named in the request metrics. -/
def serviceTemplate (name regex default : String) : Template where
  name
  dataSource := metricsSource
  query := "metrics(.*_cluster_.*_upstream_rq_2xx)"
  regex := some regex
  default

/-- A transparent panel with one query. -/
def graph (title expression legendFormat : String) : Panel where
  id := none
  title
  dataSource := metricsSource
  transparent := true
  targets := [⟨expression, legendFormat⟩]

/-- The dashboard that is generated when no definition is given. -/
def services : Dashboard :=
  assignPanelIds {
    title := "Services Dashboard"
    uid := none
    templating := [
      serviceTemplate "source" "/(.*)_cluster_.*_upstream_rq_2xx/" "service_a",
      serviceTemplate "destination" "/.*_cluster_(.*)_upstream_rq_2xx/" "service_b"]
    rows := [⟨[
      graph "2XX"
        ("[[source]]_cluster_[[destination]]_upstream_rq_2xx - " ++
          "[[source]]_cluster_[[destination]]_upstream_rq_2xx offset $__interval") "2xx",
      graph "5XX"
        ("[[source]]_cluster_[[destination]]_upstream_rq_5xx - " ++
          "[[source]]_cluster_[[destination]]_upstream_rq_5xx offset $__interval") "5xx",
      graph "Latency" "[[source]]_cluster_[[destination]]_upstream_rq_time"
        "\x7b\x7bquantile\x7d\x7d"]⟩] }

end DashboardGenerator.Dashboard
